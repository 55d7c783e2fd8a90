import Mathlib.Data.List.DropRight
import SystemMetrics.Text.Blank
import SystemMetrics.Text.Line
import SystemMetrics.Proofs.Text.Numerals

/-!
# Blanks around words

Blanks at the two ends of a text are trimmed and blanks between words separate them, however many
there are; the words of a text are the one list that it spells in this way. A text is cut at the
first or the last occurrence of a character in exactly one way.
-/

namespace SystemMetrics.Text

def Blanks (cs : List Char) : Prop := ∀ c ∈ cs, isBlank c = true

-- Decided along the text: there are too many characters to go through all of them.
instance (cs : List Char) : Decidable (Blanks cs) := List.decidableBAll _ cs

theorem blanks_nil : Blanks [] := nofun

theorem Blanks.notMem {cs : List Char} {c : Char} (h : Blanks cs) (hc : isBlank c = false) :
    c ∉ cs := fun hmem => Bool.false_ne_true (hc.symm.trans (h c hmem))

/-- A word is what can stand between two blanks. -/
def IsWord (cs : List Char) : Prop := cs ≠ [] ∧ ∀ c ∈ cs, isBlank c = false

instance (cs : List Char) : Decidable (IsWord cs) :=
  @instDecidableAnd _ _ inferInstance (List.decidableBAll _ cs)

variable {sep c : Char} {blanks word before after cs : List Char} {ws : List (List Char)}

/-! ## Cutting -/

theorem cut_eq_some_iff : cut sep cs = some (before, after) ↔
    cs = before ++ sep :: after ∧ sep ∉ before := by
  constructor
  · induction cs generalizing before with
    | nil => exact nofun
    | cons c cs ih =>
      intro h
      rw [cut_cons] at h
      by_cases hc : c = sep
      · rw [if_pos hc] at h
        cases h
        exact ⟨by rw [hc, List.nil_append], List.not_mem_nil⟩
      · rw [if_neg hc] at h
        obtain ⟨⟨before', after'⟩, hcut, heq⟩ := Option.map_eq_some_iff.mp h
        cases heq
        obtain ⟨rfl, hnot⟩ := ih hcut
        exact ⟨rfl, List.not_mem_cons_of_ne_of_not_mem (Ne.symm hc) hnot⟩
  · rintro ⟨rfl, hnot⟩
    exact cut_append hnot after

theorem cutLast_eq_some_iff : cutLast sep cs = some (before, after) ↔
    cs = before ++ sep :: after ∧ sep ∉ after := by
  have hreverse : cs = before ++ sep :: after ↔
      cs.reverse = after.reverse ++ sep :: before.reverse := by
    rw [← List.reverse_inj, List.reverse_append, List.reverse_cons, List.append_assoc,
      List.singleton_append]
  rw [hreverse, ← @List.mem_reverse Char sep after, ← cut_eq_some_iff, cutLast,
    Option.map_eq_some_iff]
  constructor
  · rintro ⟨⟨after', before'⟩, hcut, heq⟩
    cases heq
    rw [hcut, List.reverse_reverse, List.reverse_reverse]
  · intro hcut
    exact ⟨_, hcut, Prod.ext (List.reverse_reverse _) (List.reverse_reverse _)⟩

theorem notMem_splitOn {α : Type} [BEq α] [LawfulBEq α] (sep : α) (l : List α) :
    ∀ piece ∈ l.splitOn sep, sep ∉ piece := by
  induction l with
  | nil => simp
  | cons a l ih =>
    rw [List.splitOn_cons_eq_if_modifyHead]
    by_cases ha : a = sep
    · simpa [ha] using ih
    · rw [if_neg (by simpa using ha)]
      cases hsplit : l.splitOn sep with
      | nil => simp
      | cons piece rest =>
        rw [hsplit, List.forall_mem_cons] at ih
        simpa [Ne.symm ha] using ih

/-! ## Trimming -/

theorem trimStart_blanks_append (h : Blanks blanks) (cs : List Char) :
    trimStart (blanks ++ cs) = trimStart cs := List.dropWhile_append_of_pos h

theorem trimStart_append_cons (h : isBlank c = false) (before after : List Char) :
    trimStart (before ++ c :: after) = trimStart before ++ c :: after := by
  induction before with
  | nil => exact List.dropWhile_cons_of_neg (Bool.eq_false_iff.mp h)
  | cons d before ih =>
    by_cases hd : isBlank d = true
    · exact (List.dropWhile_cons_of_pos hd).trans
        (ih.trans (congrArg (· ++ c :: after) (List.dropWhile_cons_of_pos hd).symm))
    · exact (List.dropWhile_cons_of_neg hd).trans
        (congrArg (· ++ c :: after) (List.dropWhile_cons_of_neg hd).symm)

theorem trimEnd_eq (cs : List Char) : trimEnd cs = (trimStart cs.reverse).reverse := rfl

theorem trimEnd_append_cons (h : isBlank c = false) (before after : List Char) :
    trimEnd (before ++ c :: after) = before ++ c :: trimEnd after := by
  rw [trimEnd_eq, List.reverse_append, List.reverse_cons, List.append_assoc,
    List.singleton_append, trimStart_append_cons h, trimEnd_eq, List.reverse_append,
    List.reverse_cons, List.reverse_reverse, List.append_assoc, List.singleton_append]

theorem trimEnd_append_blanks (h : Blanks blanks) (cs : List Char) :
    trimEnd (cs ++ blanks) = trimEnd cs := by
  rw [trimEnd_eq, List.reverse_append, trimStart_blanks_append, ← trimEnd_eq]
  exact fun c hc => h c (List.mem_reverse.mp hc)

theorem trim_blanks (h : Blanks blanks) : trim blanks = [] := by
  have hnil : trimStart blanks = [] := List.dropWhile_eq_nil_iff.mpr h
  rw [trim, hnil]
  rfl

theorem isWord_singleton (h : isBlank c = false) : IsWord [c] :=
  ⟨List.cons_ne_nil _ _, fun _ hd => List.mem_singleton.mp hd ▸ h⟩

theorem trimStart_word (h : IsWord word) (cs : List Char) :
    trimStart (word ++ cs) = word ++ cs := by
  obtain ⟨hne, hword⟩ := h
  cases word with
  | nil => exact absurd rfl hne
  | cons c word =>
    exact List.dropWhile_cons_of_neg (Bool.eq_false_iff.mp (hword c List.mem_cons_self))

theorem IsWord.reverse (h : IsWord word) : IsWord word.reverse :=
  ⟨mt List.reverse_eq_nil_iff.mp h.1, fun c hc => h.2 c (List.mem_reverse.mp hc)⟩

/-- A word between blanks is what trimming leaves. -/
theorem trim_word {leading trailing : List Char} (h : IsWord word) (hleading : Blanks leading)
    (htrailing : Blanks trailing) : trim (leading ++ word ++ trailing) = word := by
  have hend := trimStart_word h.reverse []
  rw [List.append_nil] at hend
  rw [trim, List.append_assoc, trimStart_blanks_append hleading, trimStart_word h,
    trimEnd_append_blanks htrailing, trimEnd_eq, hend, List.reverse_reverse]

theorem trim_append_blanks (h : Blanks blanks) (cs : List Char) :
    trim (cs ++ blanks) = trim cs := by
  rw [trim, trimStart, List.dropWhile_append, List.dropWhile_eq_nil_iff.mpr h]
  split
  · rename_i hnil
    rw [trim, trimStart, List.isEmpty_iff.mp hnil]
  · exact trimEnd_append_blanks h _

theorem trim_trimStart (cs : List Char) : trim (trimStart cs) = trim cs :=
  congrArg trimEnd (List.dropWhile_idempotent isBlank cs)

theorem mem_of_mem_trimStart (h : c ∈ trimStart cs) : c ∈ cs :=
  (List.dropWhile_sublist isBlank).subset h

theorem mem_of_mem_trimEnd (h : c ∈ trimEnd cs) : c ∈ cs :=
  List.mem_reverse.mp (mem_of_mem_trimStart (List.mem_reverse.mp h))

theorem exists_trimStart (cs : List Char) :
    ∃ leading, Blanks leading ∧ cs = leading ++ trimStart cs :=
  ⟨cs.takeWhile isBlank, fun _ => List.mem_takeWhile_imp, List.takeWhile_append_dropWhile.symm⟩

theorem exists_trimEnd (cs : List Char) :
    ∃ trailing, Blanks trailing ∧ cs = trimEnd cs ++ trailing := by
  obtain ⟨trailing, htrailing, heq⟩ := exists_trimStart cs.reverse
  refine ⟨trailing.reverse, fun c hc => htrailing c (List.mem_reverse.mp hc), ?_⟩
  rw [trimEnd_eq, ← List.reverse_append, ← heq, List.reverse_reverse]

/-- Trimming takes blanks off both ends. -/
theorem exists_trim (cs : List Char) :
    ∃ leading trailing, Blanks leading ∧ Blanks trailing ∧
      cs = leading ++ trim cs ++ trailing := by
  obtain ⟨leading, hleading, hstart⟩ := exists_trimStart cs
  obtain ⟨trailing, htrailing, hend⟩ := exists_trimEnd (trimStart cs)
  refine ⟨leading, trailing, hleading, htrailing, ?_⟩
  rw [List.append_assoc, trim, ← hend]
  exact hstart

/-! ## Words -/

/-- No word reaches across a blank. -/
theorem words_append (h : isBlank c = true) (before after : List Char) :
    words (before ++ c :: after) = words before ++ words after := by
  rw [words, List.splitOnP_append_cons before after h, List.filter_append]
  rfl

theorem words_blanks_append (h : Blanks blanks) (cs : List Char) :
    words (blanks ++ cs) = words cs := by
  induction blanks with
  | nil => rfl
  | cons c blanks ih =>
    have hrest := ih fun d hd => h d (List.mem_cons_of_mem c hd)
    exact (words_append (h c List.mem_cons_self) [] _).trans hrest

theorem words_blanks (h : Blanks blanks) : words blanks = [] := by
  have hnil := words_blanks_append h []
  rwa [List.append_nil] at hnil

theorem words_append_blanks (h : Blanks blanks) (cs : List Char) :
    words (cs ++ blanks) = words cs := by
  cases blanks with
  | nil => rw [List.append_nil]
  | cons c blanks =>
    rw [words_append (h c List.mem_cons_self), words_blanks fun d hd =>
      h d (List.mem_cons_of_mem c hd), List.append_nil]

theorem words_of_isWord (h : IsWord word) : words word = [word] := by
  rw [words, List.splitOnP_eq_singleton h.2]
  simp [h.1]

theorem words_trimEnd (cs : List Char) : words (trimEnd cs) = words cs := by
  obtain ⟨trailing, htrailing, heq⟩ := exists_trimEnd cs
  conv => rhs; rw [heq, words_append_blanks htrailing]

/-! ## Texts of words -/

/-- A text spells words if they stand in it in this order: blanks may come before and after each of
them, and a word ends only at a blank or with the text. -/
inductive Spells : List Char → List (List Char) → Prop
  | blanks {cs : List Char} (h : Blanks cs) : Spells cs []
  | word {leading word rest : List Char} {ws : List (List Char)} (hleading : Blanks leading)
      (hword : IsWord word) (hend : ∀ c ∈ rest.head?, isBlank c = true) (hrest : Spells rest ws) :
      Spells (leading ++ word ++ rest) (word :: ws)

theorem words_word_append (hword : IsWord word) {rest : List Char}
    (hend : ∀ c ∈ rest.head?, isBlank c = true) : words (word ++ rest) = word :: words rest := by
  cases rest with
  | nil =>
    rw [List.append_nil, words_of_isWord hword]
    rfl
  | cons c rest =>
    have hc : isBlank c = true := hend c rfl
    rw [words_append hc, words_of_isWord hword]
    exact congrArg (word :: ·) (words_append hc [] rest).symm

theorem Spells.words_eq (h : Spells cs ws) : words cs = ws := by
  induction h with
  | blanks h => exact words_blanks h
  | word hleading hword hend _ ih =>
    rw [List.append_assoc, words_blanks_append hleading, words_word_append hword hend, ih]

theorem exists_spells (cs : List Char) : ∃ ws, Spells cs ws := by
  induction cs with
  | nil => exact ⟨[], .blanks blanks_nil⟩
  | cons c cs ih =>
    obtain ⟨ws, h⟩ := ih
    by_cases hc : isBlank c = true
    · cases h with
      | blanks h => exact ⟨[], .blanks (List.forall_mem_cons.mpr ⟨hc, h⟩)⟩
      | @word leading word rest ws hleading hword hend hrest =>
        have hmore : Blanks (c :: leading) := List.forall_mem_cons.mpr ⟨hc, hleading⟩
        exact ⟨_, .word hmore hword hend hrest⟩
    · have hc : isBlank c = false := Bool.eq_false_iff.mpr hc
      cases h with
      | blanks h =>
        have hend : ∀ d ∈ cs.head?, isBlank d = true := fun d hd => h d (List.mem_of_mem_head? hd)
        have hspells := Spells.word blanks_nil (isWord_singleton hc) hend (.blanks h)
        exact ⟨_, hspells⟩
      | @word leading word rest ws hleading hword hend hrest =>
        -- The character goes on with the word after it, or is a word of its own before a blank.
        cases leading with
        | nil =>
          have hlonger : IsWord (c :: word) :=
            ⟨List.cons_ne_nil _ _, List.forall_mem_cons.mpr ⟨hc, hword.2⟩⟩
          exact ⟨_, Spells.word blanks_nil hlonger hend hrest⟩
        | cons d leading =>
          have hblank : ∀ b ∈ (d :: leading ++ word ++ rest).head?, isBlank b = true := by
            simpa using hleading d List.mem_cons_self
          exact ⟨_, Spells.word blanks_nil (isWord_singleton hc) hblank
            (.word hleading hword hend hrest)⟩

/-- A text spells its words and nothing else. -/
theorem spells_iff : Spells cs ws ↔ words cs = ws := by
  constructor
  · exact Spells.words_eq
  · rintro rfl
    obtain ⟨ws, h⟩ := exists_spells cs
    exact h.words_eq ▸ h

theorem spells_words (cs : List Char) : Spells cs (words cs) := spells_iff.mpr rfl

/-! ## Numerals are words -/

theorem isBlank_of_isDigit {c : Char} (h : c.isDigit = true) : isBlank c = false := by
  simp only [Char.isDigit, Bool.and_eq_true, decide_eq_true_eq] at h
  have hrange : 48 ≤ c.toNat ∧ c.toNat ≤ 57 := ⟨h.1, h.2⟩
  simp only [isBlank, blankRanges, inRanges, Bool.and_eq_false_iff, Bool.or_eq_false_iff,
    decide_eq_false_iff_not]
  omega

/-- Neither a blank nor a parenthesis is part of a numeral. -/
theorem numeral_notMem {signed : Bool} {cs : List Char} {n : Int} (h : Numeral signed cs n)
    {c : Char} (hc : isBlank c = true ∨ c = '(' ∨ c = ')') : c ∉ cs := by
  intro hmem
  rcases h.mem hmem with hdigit | rfl | rfl
  · rcases hc with hblank | rfl | rfl
    · exact Bool.false_ne_true ((isBlank_of_isDigit hdigit).symm.trans hblank)
    · exact absurd hdigit (by decide)
    · exact absurd hdigit (by decide)
  · exact absurd hc (by decide)
  · exact absurd hc (by decide)

theorem numeral_isWord {signed : Bool} {cs : List Char} {n : Int} (h : Numeral signed cs n) :
    IsWord cs :=
  ⟨h.ne_nil, fun _ hc => Bool.eq_false_iff.mpr fun hblank => numeral_notMem h (.inl hblank) hc⟩

/-- The word at a place, counted from zero, is a numeral of `n`, and `n` fits 64 bits. -/
def NumberAt (ws : List (List Char)) (place n : Nat) : Prop :=
  ∃ w, ws[place]? = some w ∧ Numeral false w n ∧ n < word64

theorem numberAt_iff {place n : Nat} :
    NumberAt ws place n ↔ ws[place]?.bind natural64? = some n := by
  simp only [NumberAt, Option.bind_eq_some_iff, natural64?_eq_some_iff]

theorem NumberAt.lt {place n : Nat} (h : NumberAt ws place n) : place < ws.length := by
  obtain ⟨w, hw, -⟩ := h
  exact (List.getElem?_eq_some_iff.mp hw).1

instance (ws : List (List Char)) (place n : Nat) : Decidable (NumberAt ws place n) :=
  decidable_of_iff _ numberAt_iff.symm

end SystemMetrics.Text
