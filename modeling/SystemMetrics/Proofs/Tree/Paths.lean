import SystemMetrics.Proofs.Text.Words
import SystemMetrics.Tree.Path

/-!
# Absolute paths by their parts

The path one step up from an absolute path has all of its parts but the last, however the path is
spelled, and is absolute itself. So the paths above an absolute path are those of its proper
beginnings, all of them.
-/

namespace SystemMetrics

namespace PathPart

variable {cs : List Char} {pieces : List (List Char)}

theorem ofPieces_append (before after : List (List Char)) :
    ofPieces (before ++ after) = ofPieces before ++ ofPieces after := List.filterMap_append

theorem root_notMem_ofPieces (pieces : List (List Char)) : root ∉ ofPieces pieces := by
  intro h
  obtain ⟨piece, -, hpart⟩ := List.mem_filterMap.mp h
  split at hpart <;> cases hpart

theorem ofPieces_singleton_idle {piece : List Char} (h : Path.isIdle piece = true) :
    ofPieces [piece] = [] := by
  simp only [Path.isIdle, Bool.or_eq_true, List.isEmpty_iff, beq_iff_eq] at h
  rcases h with rfl | rfl <;> rfl

theorem exists_ofPieces_singleton {piece : List Char} (h : ¬ Path.isIdle piece = true) :
    ∃ part, ofPieces [piece] = [part] := by
  simp only [Path.isIdle, Bool.or_eq_true, List.isEmpty_iff, beq_iff_eq, not_or] at h
  obtain ⟨hempty, hdot⟩ := h
  simp only [ofPieces, List.filterMap_cons, List.filterMap_nil]
  split
  · rename_i hnone
    split at hnone
    · exact absurd rfl hempty
    · exact absurd rfl hdot
    · cases hnone
    · cases hnone
  · exact ⟨_, rfl⟩

/-- Pieces that are idle at the end make no parts. -/
theorem ofPieces_rdropWhile (pieces : List (List Char)) :
    ofPieces (pieces.rdropWhile Path.isIdle) = ofPieces pieces := by
  induction pieces using List.reverseRecOn with
  | nil => rfl
  | append_singleton pieces piece ih =>
    by_cases h : Path.isIdle piece = true
    · rw [List.rdropWhile_concat_pos _ _ _ h, ih, ofPieces_append, ofPieces_singleton_idle h,
        List.append_nil]
    · rw [List.rdropWhile_concat_neg _ _ _ h]

/-- The last piece that is not idle makes the last part. -/
theorem ofPieces_dropLast_rdropWhile (pieces : List (List Char)) :
    ofPieces (pieces.rdropWhile Path.isIdle).dropLast = (ofPieces pieces).dropLast := by
  induction pieces using List.reverseRecOn with
  | nil => rfl
  | append_singleton pieces piece ih =>
    by_cases h : Path.isIdle piece = true
    · rw [List.rdropWhile_concat_pos _ _ _ h, ih, ofPieces_append, ofPieces_singleton_idle h,
        List.append_nil]
    · obtain ⟨part, hpart⟩ := exists_ofPieces_singleton h
      rw [List.rdropWhile_concat_neg _ _ _ h, List.dropLast_concat, ofPieces_append, hpart,
        List.dropLast_concat]

theorem ofChars_slash (cs : List Char) :
    ofChars ('/' :: cs) = root :: ofPieces (cs.splitOn '/') := by
  simp only [ofChars, List.splitOn_cons_eq_if_modifyHead, BEq.rfl, if_true]

/-- Pieces without slashes that are joined by slashes after a first one. -/
theorem ofChars_slash_intercalate (h : ∀ piece ∈ pieces, '/' ∉ piece) :
    ofChars ('/' :: ['/'].intercalate pieces) = root :: ofPieces pieces := by
  rw [ofChars_slash]
  by_cases hne : pieces = []
  · rw [hne]
    rfl
  · rw [List.splitOn_intercalate '/' h hne]

end PathPart

namespace Path

open PathPart

variable {p q d : Path}

/-! ## One step up -/

/-- The pieces between slashes of the path one step up. -/
def piecesAbove (cs : List Char) : List (List Char) :=
  (((cs.splitOn '/').rdropWhile isIdle).dropLast).rdropWhile isIdle

theorem parentText_slash {cs : List Char} (h : ofPieces (cs.splitOn '/') ≠ []) :
    parentText ('/' :: cs) = '/' :: ['/'].intercalate (piecesAbove cs) := by
  have hsplit : ('/' :: cs).splitOn '/' = [] :: cs.splitOn '/' := by
    simp [List.splitOn_cons_eq_if_modifyHead]
  have hdrop (pieces : List (List Char)) :
      dropIdle ([] :: pieces) = [] :: pieces.rdropWhile isIdle := rfl
  have hpieces : (cs.splitOn '/').rdropWhile isIdle ≠ [] := by
    intro hnil
    rw [← ofPieces_rdropWhile, hnil] at h
    exact h rfl
  rw [parentText, hsplit, hdrop, List.dropLast_cons_of_ne_nil hpieces, hdrop, ← piecesAbove]
  cases piecesAbove cs with
  | nil => rfl
  | cons first rest => exact List.intercalate_cons_cons

theorem slash_notMem_piecesAbove (cs : List Char) : ∀ piece ∈ piecesAbove cs, '/' ∉ piece := by
  have hbegin : piecesAbove cs <+: cs.splitOn '/' :=
    ((List.rdropWhile_prefix _ _).trans (List.dropLast_prefix _)).trans
      (List.rdropWhile_prefix _ _)
  exact fun piece hpiece => Text.notMem_splitOn '/' cs piece (hbegin.subset hpiece)

theorem ofChars_parentText_slash {cs : List Char} (h : ofPieces (cs.splitOn '/') ≠ []) :
    ofChars (parentText ('/' :: cs)) = root :: (ofPieces (cs.splitOn '/')).dropLast := by
  rw [parentText_slash h, ofChars_slash_intercalate (slash_notMem_piecesAbove cs), piecesAbove,
    ofPieces_rdropWhile, ofPieces_dropLast_rdropWhile]

/-- A path whose text begins with a slash. -/
structure Absolute (p : Path) : Prop where
  parts_eq : p.parts = ofChars p.text.toList
  head_eq : p.text.toList.head? = some '/'

theorem Absolute.ofText {text : String} (h : text.toList.head? = some '/') :
    (Path.ofText text).Absolute := ⟨rfl, h⟩

/-- Whatever is appended to an absolute path, an absolute one comes out. -/
theorem head?_joinText {base : String} (h : base.toList.head? = some '/') (rest : String) :
    (joinText base rest).toList.head? = some '/' := by
  have hne : base.toList ≠ [] := by
    intro hnil
    rw [hnil] at h
    cases h
  unfold joinText
  split
  · assumption
  · split
    · rw [String.toList_append, List.head?_append_of_ne_nil _ hne, h]
    · rw [String.append_assoc, String.toList_append, List.head?_append_of_ne_nil _ hne, h]

theorem Absolute.exists_slash (h : p.Absolute) : ∃ cs, p.text.toList = '/' :: cs ∧
    p.parts = root :: ofPieces (cs.splitOn '/') := by
  obtain ⟨cs, hcs⟩ := List.head?_eq_some_iff.mp h.head_eq
  exact ⟨cs, hcs, by rw [h.parts_eq, hcs, ofChars_slash]⟩

theorem Absolute.parts_ne_nil (h : p.Absolute) : p.parts ≠ [] := by
  obtain ⟨cs, -, hparts⟩ := h.exists_slash
  exact hparts ▸ List.cons_ne_nil _ _

/-- The root is the only absolute path without a path one step up. -/
theorem Absolute.parent?_cases (h : p.Absolute) :
    p.parts = [.root] ∧ p.parent? = none ∨
      ∃ q part, q.Absolute ∧ p.parts = q.parts ++ [part] ∧ p.parent? = some q := by
  obtain ⟨cs, htext, hparts⟩ := h.exists_slash
  rcases List.eq_nil_or_concat (ofPieces (cs.splitOn '/')) with hnil | ⟨before, part, hconcat⟩
  · rw [hnil] at hparts
    exact .inl ⟨hparts, by rw [parent?, hparts]; rfl⟩
  · have hne : ofPieces (cs.splitOn '/') ≠ [] := by simp [hconcat]
    have hroot : part ≠ .root := by
      rintro rfl
      exact root_notMem_ofPieces (cs.splitOn '/') (by simp [hconcat])
    have hlast : p.parts = (root :: before) ++ [part] := by rw [hparts, hconcat]; simp
    have hparent : p.parent? =
        some ⟨String.ofList (parentText p.text.toList), p.parts.dropLast⟩ := by
      rw [parent?, hlast, List.getLast?_concat]
      cases part with
      | root => exact absurd rfl hroot
      | here => rfl
      | up => rfl
      | name s => rfl
    refine .inr ⟨_, part, ⟨?_, ?_⟩, ?_, hparent⟩
    · rw [String.toList_ofList, htext, ofChars_parentText_slash hne, hparts,
        List.dropLast_cons_of_ne_nil hne]
    · rw [String.toList_ofList, htext, parentText_slash hne]
      rfl
    · rw [hlast, List.dropLast_concat]

/-! ## All steps up -/

/-- A path above another is a proper beginning of it, by its parts. The empty path is above
none. -/
structure IsAbove (d p : Path) : Prop where
  ne_nil : d.parts ≠ []
  le : d.parts <+: p.parts
  ne : d.parts ≠ p.parts

theorem IsAbove.trans (hd : d.IsAbove q) (hq : q.IsAbove p) : d.IsAbove p where
  ne_nil := hd.ne_nil
  le := hd.le.trans hq.le
  ne heq := hd.ne (hd.le.eq_of_length_le (heq ▸ hq.le.length_le))

theorem IsAbove.of_same (hd : d.IsAbove q) (h : p.same q = true) : d.IsAbove p := by
  have hparts : p.parts = q.parts := beq_iff_eq.mp h
  exact ⟨hd.ne_nil, hparts ▸ hd.le, hparts ▸ hd.ne⟩

theorem not_isAbove_of_singleton {part : PathPart} (h : p.parts = [part]) : ¬ d.IsAbove p := by
  rintro ⟨hne_nil, hle, hne⟩
  rw [h] at hle hne
  exact hne_nil (List.prefix_nil.mp ((List.prefix_concat_iff.mp hle).resolve_left hne))

theorem isAbove_iff_of_append {part : PathPart} (h : p.parts = q.parts ++ [part])
    (hq : q.parts ≠ []) : d.IsAbove p ↔ q.same d = true ∨ d.IsAbove q := by
  rw [same, beq_iff_eq]
  constructor
  · rintro ⟨hne_nil, hle, hne⟩
    rw [h] at hle hne
    have hle := (List.prefix_concat_iff.mp hle).resolve_left hne
    by_cases heq : q.parts = d.parts
    · exact .inl heq
    · exact .inr ⟨hne_nil, hle, Ne.symm heq⟩
  · rintro (heq | ⟨hne_nil, hle, -⟩)
    · refine ⟨heq ▸ hq, ?_, ?_⟩
      · rw [h, heq]
        exact List.prefix_append _ _
      · rw [h, heq]
        exact fun hself => List.cons_ne_nil _ _ (List.self_eq_append_right.mp hself)
    · refine ⟨hne_nil, ?_, ?_⟩
      · rw [h]
        exact hle.trans (List.prefix_append _ _)
      · intro heq
        have hlength := hle.length_le
        rw [heq, h, List.length_append, List.length_singleton] at hlength
        omega

/-- The fuel of the walk is enough, since every step takes one part away. -/
theorem ancestors_go (n : Nat) (h : p.Absolute) (hn : p.parts.length ≤ n) :
    (∀ a ∈ ancestors.go n p, a.Absolute) ∧
      ∀ d : Path, (∃ a ∈ ancestors.go n p, a.same d = true) ↔ d.IsAbove p := by
  induction n generalizing p with
  | zero => exact absurd (List.length_eq_zero_iff.mp (Nat.le_zero.mp hn)) h.parts_ne_nil
  | succ n ih =>
    rcases h.parent?_cases with ⟨hparts, hparent⟩ | ⟨q, part, hq, hparts, hparent⟩
    · have hgo : ancestors.go (n + 1) p = [] := by rw [ancestors.go, hparent]
      rw [hgo]
      refine ⟨fun a ha => absurd ha List.not_mem_nil, fun d => ?_⟩
      simp [not_isAbove_of_singleton hparts]
    · have htext : ¬ q.text.isEmpty = true := by
        intro hempty
        have hhead := hq.head_eq
        rw [String.isEmpty_iff.mp hempty] at hhead
        cases hhead
      have hgo : ancestors.go (n + 1) p = q :: ancestors.go n q := by
        rw [ancestors.go, hparent]
        simp [htext]
      obtain ⟨habsolute, habove⟩ := ih hq (by simpa [hparts] using hn)
      rw [hgo]
      refine ⟨List.forall_mem_cons.mpr ⟨hq, habsolute⟩, fun d => ?_⟩
      rw [List.exists_mem_cons_iff, habove, isAbove_iff_of_append hparts hq.parts_ne_nil]

theorem Absolute.of_mem_ancestors (h : p.Absolute) (hd : d ∈ p.ancestors) : d.Absolute :=
  (ancestors_go _ h le_rfl).1 d hd

/-- The paths above an absolute path are all of its proper beginnings. -/
theorem Absolute.exists_ancestor_iff (h : p.Absolute) :
    (∃ a ∈ p.ancestors, a.same d = true) ↔ d.IsAbove p := (ancestors_go _ h le_rfl).2 d

end Path

end SystemMetrics
