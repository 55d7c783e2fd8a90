import Mathlib.Data.List.Flatten
import SystemMetrics.Proofs.Retained

/-!
# Passes that overlap

A sampling pass reads the system in one step and records what it read in a later one. A lock guards
the recording only, so the steps of several passes come in any order in which each pass reads before
it records, and a pass can be overtaken by one that read later. The values in a history stand in the
order in which their passes recorded. Where what is read only grows, a value falls behind the one
before it only if its pass was overtaken.
-/

namespace SystemMetrics

variable {S R : Type}

/-! ## Schedules -/

/-- What passes over a shared state can read, how they then record it, and the steps that only
change the state. -/
structure TwoStep (S R : Type) where
  Reads : R → Prop
  Records : R → S → S → Prop
  Moves : S → S → Prop

/-- The readings in the order in which they were taken, the passes that have yet to record, and
those that have recorded in the order in which they did. A pass is known by its place in the first
of these orders. -/
structure Schedule (R : Type) where
  taken : List R := []
  pending : List (Nat × R) := []
  recorded : List (Nat × R) := []
  deriving DecidableEq, Repr

namespace Schedule

def read (r : R) (c : Schedule R) : Schedule R :=
  { c with taken := c.taken ++ [r], pending := c.pending ++ [(c.taken.length, r)] }

def record [DecidableEq R] (pass : Nat × R) (c : Schedule R) : Schedule R :=
  { c with pending := c.pending.erase pass, recorded := c.recorded ++ [pass] }

/-- No pass was overtaken. -/
def InOrder (c : Schedule R) : Prop := c.recorded.Pairwise fun before after => before.1 < after.1

instance (c : Schedule R) : Decidable c.InOrder := inferInstanceAs (Decidable (List.Pairwise _ _))

/-- Every pass is the one that read at its place, and no two are at one place. -/
structure Sound (taken : List R) (passes : List (Nat × R)) : Prop where
  getElem? : ∀ pass ∈ passes, taken[pass.1]? = some pass.2
  distinct : (passes.map (·.1)).Nodup

theorem Sound.perm {taken : List R} {passes passes' : List (Nat × R)} (h : Sound taken passes)
    (hp : passes.Perm passes') : Sound taken passes' where
  getElem? := fun pass hpass => h.getElem? pass (hp.mem_iff.mpr hpass)
  distinct := (hp.map (·.1)).nodup_iff.mp h.distinct

theorem Sound.right {taken : List R} {before passes : List (Nat × R)}
    (h : Sound taken (before ++ passes)) : Sound taken passes where
  getElem? := fun pass hpass => h.getElem? pass (List.mem_append_right _ hpass)
  distinct := by
    have hdistinct := h.distinct
    rw [List.map_append, List.nodup_append] at hdistinct
    exact hdistinct.2.1

theorem Sound.read {taken : List R} {passes : List (Nat × R)} (h : Sound taken passes) (r : R) :
    Sound (taken ++ [r]) ((taken.length, r) :: passes) := by
  have hlt : ∀ pass ∈ passes, pass.1 < taken.length := fun pass hpass =>
    (List.getElem?_eq_some_iff.mp (h.getElem? pass hpass)).1
  constructor
  · intro pass hpass
    rcases List.mem_cons.mp hpass with rfl | hpass
    · exact List.getElem?_concat_length
    · rw [List.getElem?_append_left (hlt pass hpass)]
      exact h.getElem? pass hpass
  · rw [List.map_cons, List.nodup_cons]
    refine ⟨fun hmem => ?_, h.distinct⟩
    obtain ⟨pass, hpass, heq⟩ := List.mem_map.mp hmem
    exact absurd (hlt pass hpass) (by rw [heq]; exact Nat.lt_irrefl _)

end Schedule

/-- The states that the steps of any number of passes lead to, with the schedule of these passes. -/
inductive Interleaving [DecidableEq R] (P : TwoStep S R) (initial : S) : Schedule R → S → Prop
  | start : Interleaving P initial {} initial
  | read {c : Schedule R} {s : S} {r : R} (h : Interleaving P initial c s) (hr : P.Reads r) :
      Interleaving P initial (c.read r) s
  | record {c : Schedule R} {s s' : S} {pass : Nat × R} (h : Interleaving P initial c s)
      (hpass : pass ∈ c.pending) (hs : P.Records pass.2 s s') :
      Interleaving P initial (c.record pass) s'
  | move {c : Schedule R} {s s' : S} (h : Interleaving P initial c s) (hs : P.Moves s s') :
      Interleaving P initial c s'

namespace Interleaving

variable [DecidableEq R] {P : TwoStep S R} {initial s s' : S} {c : Schedule R} {r : R}

theorem pass (h : Interleaving P initial c s) (hr : P.Reads r) (hs : P.Records r s s') :
    Interleaving P initial ((c.read r).record (c.taken.length, r)) s' :=
  (h.read hr).record (List.mem_append_right _ List.mem_cons_self) hs

theorem sound (h : Interleaving P initial c s) :
    Schedule.Sound c.taken (c.pending ++ c.recorded) := by
  induction h with
  | start => exact ⟨fun _ hpass => (nomatch hpass), List.nodup_nil⟩
  | @read c s r _ _ ih =>
    refine (ih.read r).perm ?_
    show List.Perm _ (c.pending ++ [(c.taken.length, r)] ++ c.recorded)
    rw [List.append_assoc]
    exact List.perm_middle.symm
  | @record c s s' pass _ hpass _ ih =>
    refine ih.perm (((List.perm_cons_erase hpass).append_right _).trans ?_)
    show List.Perm _ (c.pending.erase pass ++ (c.recorded ++ [pass]))
    rw [← List.append_assoc]
    exact (List.perm_append_singleton _ _).symm
  | move _ _ ih => exact ih

end Interleaving

/-! ## Values in a history -/

/-- The values of a history that may be missing. -/
def History.valuesIf : Option History → List Nat
  | some h => h.values
  | none => []

theorem History.valuesIf_sublist {history? : Option History} {values : List Nat}
    (h : ∀ history, history? = some history → history.values.Sublist values) :
    (valuesIf history?).Sublist values := by
  cases history? with
  | none => exact List.nil_sublist values
  | some history => exact h history rfl

/-- The values that `feed` finds in what a pass read, with the pass. -/
def Schedule.marked (feed : R → List Nat) (pass : Nat × R) : List (Nat × Nat) :=
  (feed pass.2).map (pass.1, ·)

theorem Schedule.map_marked (feed : R → List Nat) (passes : List (Nat × R)) :
    (passes.flatMap (marked feed)).map (·.2) = passes.flatMap fun pass => feed pass.2 := by
  rw [List.map_flatMap]
  refine congrArg (List.flatMap · passes) (funext fun pass => ?_)
  rw [marked, List.map_map]
  exact List.map_id' _

/-- Where what was read only grew, a value is above another only if the pass of the other read
before. -/
theorem Schedule.Sound.marked_pairwise {taken : List R} {passes : List (Nat × R)}
    (h : Sound taken passes) {feed : R → List Nat}
    (hgrow : (taken.flatMap feed).Pairwise (· ≤ ·)) :
    (passes.flatMap (marked feed)).Pairwise fun older newer =>
      older.1 ≤ newer.1 → older.2 ≤ newer.2 := by
  rw [List.pairwise_flatMap] at hgrow ⊢
  obtain ⟨hwithin, hacross⟩ := hgrow
  constructor
  · intro pass hpass
    have hread := List.mem_of_getElem? (h.getElem? pass hpass)
    rw [marked, List.pairwise_map]
    refine (hwithin pass.2 hread).imp ?_
    exact fun hle _ => hle
  · refine (List.pairwise_map.mp h.distinct).imp_of_mem fun ha hb hne => ?_
    rintro older holder newer hnewer (hle : older.1 ≤ newer.1)
    obtain ⟨v, hv, rfl⟩ := List.mem_map.mp holder
    obtain ⟨w, hw, rfl⟩ := List.mem_map.mp hnewer
    obtain ⟨hia, ha⟩ := List.getElem?_eq_some_iff.mp (h.getElem? _ ha)
    obtain ⟨hib, hb⟩ := List.getElem?_eq_some_iff.mp (h.getElem? _ hb)
    rw [← ha] at hv
    rw [← hb] at hw
    have hlt := Nat.lt_of_le_of_ne hle hne
    exact List.pairwise_iff_getElem.mp hacross _ _ hia hib hlt v hv w hw

/-- The values stem from passes that recorded, in the order in which they did, and one of them is
above a later one only if the pass of the later one read before. -/
def Schedule.Explains (c : Schedule R) (feed : R → List Nat) (values : List Nat) : Prop :=
  ∃ samples : List (Nat × Nat), samples.map (·.2) = values ∧
    samples.Sublist (c.recorded.flatMap (Schedule.marked feed)) ∧
    samples.Pairwise fun older newer => older.1 ≤ newer.1 → older.2 ≤ newer.2

/-- Where no pass was overtaken, no value is above a later one. -/
theorem Schedule.Explains.ordered {c : Schedule R} {feed : R → List Nat} {values : List Nat}
    (h : c.Explains feed values) (horder : c.InOrder) : values.Pairwise (· ≤ ·) := by
  obtain ⟨samples, rfl, hrecorded, hfall⟩ := h
  have hpasses : (c.recorded.flatMap (marked feed)).Pairwise fun older newer =>
      older.1 ≤ newer.1 := by
    rw [List.pairwise_flatMap]
    constructor
    · intro pass _
      rw [marked, List.pairwise_map]
      exact List.pairwise_of_forall fun _ _ => Nat.le_refl _
    · refine horder.imp fun hlt older holder newer hnewer => ?_
      obtain ⟨_, _, rfl⟩ := List.mem_map.mp holder
      obtain ⟨_, _, rfl⟩ := List.mem_map.mp hnewer
      exact Nat.le_of_lt hlt
  rw [List.pairwise_map]
  exact (hpasses.sublist hrecorded).imp₂ (fun _ _ hle hfall => hfall hle) hfall

/-- From the initial state on, a history that a state may have holds nothing but what `feed` finds
in the readings, and every recording adds at its end only. The steps keep an invariant. -/
structure Feeds (P : TwoStep S R) (initial : S) (Inv : S → Prop) (feed : R → List Nat)
    (look : S → Option History) : Prop where
  start : Inv initial ∧ History.valuesIf (look initial) = []
  record : ∀ {r s s'}, Inv s → P.Records r s s' →
    Inv s' ∧ (History.valuesIf (look s')).Sublist (History.valuesIf (look s) ++ feed r)
  move : ∀ {s s'}, Inv s → P.Moves s s' →
    Inv s' ∧ (History.valuesIf (look s')).Sublist (History.valuesIf (look s))

namespace Feeds

variable [DecidableEq R] {P : TwoStep S R} {initial s : S} {c : Schedule R} {Inv : S → Prop}
  {feed : R → List Nat} {look : S → Option History}

theorem values_sublist (hf : Feeds P initial Inv feed look) (h : Interleaving P initial c s) :
    Inv s ∧ (History.valuesIf (look s)).Sublist (c.recorded.flatMap fun pass => feed pass.2) := by
  induction h with
  | start =>
    rw [hf.start.2]
    exact ⟨hf.start.1, List.nil_sublist _⟩
  | read _ _ ih => exact ih
  | @record c s s' pass _ _ hs ih =>
    obtain ⟨hs', hadded⟩ := hf.record ih.1 hs
    refine ⟨hs', hadded.trans ?_⟩
    show List.Sublist _ ((c.recorded ++ [pass]).flatMap fun pass => feed pass.2)
    rw [List.flatMap_append, List.flatMap_singleton]
    exact ih.2.append_right _
  | move _ hs ih =>
    obtain ⟨hs', hkept⟩ := hf.move ih.1 hs
    exact ⟨hs', hkept.trans ih.2⟩

/-- Values that grew while they were read fall in a history only where a pass was overtaken. -/
theorem explains (hf : Feeds P initial Inv feed look) (h : Interleaving P initial c s)
    (hgrow : (c.taken.flatMap feed).Pairwise (· ≤ ·)) {history : History}
    (hlook : look s = some history) : c.Explains feed history.values := by
  have hvalues := (hf.values_sublist h).2
  rw [hlook] at hvalues
  rw [← Schedule.map_marked] at hvalues
  obtain ⟨samples, hsub, heq⟩ := List.sublist_map_iff.mp hvalues
  exact ⟨samples, heq.symm, hsub, (h.sound.right.marked_pairwise hgrow).sublist hsub⟩

theorem explains_each {value : R → Nat}
    (hf : Feeds P initial Inv (fun r => [value r]) look) (h : Interleaving P initial c s)
    (hgrow : c.taken.Pairwise fun older newer => value older ≤ value newer) {history : History}
    (hlook : look s = some history) : c.Explains (fun r => [value r]) history.values := by
  refine hf.explains h ?_ hlook
  rw [← List.map_eq_flatMap, List.pairwise_map]
  exact hgrow

end Feeds

end SystemMetrics
