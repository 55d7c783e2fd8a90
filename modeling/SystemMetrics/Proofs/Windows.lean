import Mathlib.Data.List.DropRight
import SystemMetrics.Proofs.Retained

/-!
# Sliding windows

However a history was filled and cleared, it holds the latest of the samples since it was cleared
last, in order, and as many as its capacity allows. Every query about a window compares the same two
of them.
-/

namespace SystemMetrics.History

/-- The samples, the oldest first. -/
def retained (h : History) : List Sample := h.samples.reverse

/-! ## Runs of edits -/

inductive Edit where
  | add (value takenAt : Nat)
  | clear
  deriving DecidableEq, Repr

def edit (h : History) : Edit → History
  | .add value takenAt => h.add value takenAt
  | .clear => h.clear

/-- What has been added since the last clearing, the oldest first, once there is one more edit. -/
def Edit.addTo (added : List Sample) : Edit → List Sample
  | .add value takenAt => added ++ [⟨value, takenAt⟩]
  | .clear => []

/-- The samples that were added after the last clearing, the oldest first. -/
def sinceClear (edits : List Edit) : List Sample := edits.foldl Edit.addTo []

/-- A new history after some edits. -/
def filled (capacity : Nat) (edits : List Edit) : History := edits.foldl edit (new capacity)

variable {capacity : Nat} {added : List Sample} {h : History}

theorem Retains.clear {fed : List Sample} (hr : Retains capacity fed h) :
    Retains capacity [] h.clear :=
  ⟨hr.capacity_eq, List.take_nil.symm⟩

theorem Retains.edit (hr : Retains capacity added.reverse h) (e : Edit) :
    Retains capacity (e.addTo added).reverse (h.edit e) := by
  cases e with
  | add value takenAt =>
    rw [Edit.addTo, List.reverse_concat]
    exact hr.add value takenAt
  | clear => exact hr.clear

theorem Retains.edits (hr : Retains capacity added.reverse h) (edits : List Edit) :
    Retains capacity (edits.foldl Edit.addTo added).reverse (edits.foldl History.edit h) := by
  induction edits generalizing added h with
  | nil => exact hr
  | cons e rest ih => exact ih (hr.edit e)

theorem retains_filled (capacity : Nat) (edits : List Edit) :
    Retains capacity (sinceClear edits).reverse (filled capacity edits) :=
  (retains_new capacity).edits edits

theorem Retains.retained_eq (hr : Retains capacity added.reverse h) :
    h.retained = added.rtake (max capacity 1) := by
  rw [retained, hr.samples_eq, List.rtake_eq_reverse_take_reverse]

/-- What a first cut loses, a second one would have lost too. -/
theorem rtake_rtake_append {α : Type} (l more : List α) (n : Nat) :
    (l.rtake n ++ more).rtake n = (l ++ more).rtake n := by
  simp only [List.rtake_eq_reverse_take_reverse, List.reverse_append, List.reverse_reverse,
    List.take_append, List.take_take]
  rw [Nat.min_eq_left (Nat.sub_le n _)]

/-! ## Windows -/

/-- A window without steps has nothing to compare. -/
theorem timedDelta_of_steps_eq_zero {goBack : Nat} (hsteps : h.steps goBack = 0) :
    h.timedDelta goBack = (0, 0) ∧ h.averageDelta goBack = 0.0 := by
  rw [timedDelta, window?, averageDelta, if_pos hsteps, if_pos hsteps]
  exact ⟨rfl, rfl⟩

/-- The two samples that a window compares, as they stand from the oldest to the newest. -/
theorem window?_eq {goBack : Nat} (hsteps : h.steps goBack ≠ 0) :
    ∃ old new, h.retained[h.retained.length - 1 - h.steps goBack]? = some old ∧
      h.retained.getLast? = some new ∧ h.window? goBack = some (old, new) := by
  have hlt : h.steps goBack < h.samples.length := by
    rw [steps] at hsteps ⊢
    omega
  have hpos : 0 < h.samples.length := by omega
  refine ⟨h.samples[h.steps goBack], h.samples[0], ?_, ?_, ?_⟩
  · rw [retained, List.length_reverse, List.getElem?_reverse (by omega),
      show h.samples.length - 1 - (h.samples.length - 1 - h.steps goBack) = h.steps goBack by omega,
      List.getElem?_eq_getElem hlt]
  · rw [retained, List.getLast?_reverse, List.head?_eq_getElem?, List.getElem?_eq_getElem hpos]
  · rw [window?, if_neg hsteps, latest?, List.head?_eq_getElem?, List.getElem?_eq_getElem hlt,
      List.getElem?_eq_getElem hpos]
    rfl

/-- A history is a sliding window over what was added since it was cleared last: it retains the
latest samples, one at least, and as many as the capacity. A request for some steps back goes back
as far as there are samples. Without a step every delta is zero; with one, the delta, the time that
it took and the average per step all compare the newest sample with the one so many steps older, and
are cut off at zero. -/
theorem slides (capacity : Nat) (edits : List Edit) :
    let h := filled capacity edits
    let added := sinceClear edits
    h.retained = added.rtake (max 1 capacity) ∧
    h.retained.length = min added.length (max 1 capacity) ∧
    ∀ goBack, let k := min goBack (h.retained.length - 1)
      (k = 0 → h.delta goBack = 0 ∧ h.timedDelta goBack = (0, 0) ∧ h.averageDelta goBack = 0.0) ∧
      (k ≠ 0 → ∃ old new, h.retained[h.retained.length - 1 - k]? = some old ∧
        h.retained.getLast? = some new ∧
        h.delta goBack = new.value - old.value ∧
        h.timedDelta goBack = (new.value - old.value, new.takenAt - old.takenAt) ∧
        h.averageDelta goBack =
          counterToFloat (new.value - old.value) / counterToFloat k) := by
  intro h added
  have hretained : h.retained = added.rtake (max 1 capacity) := by
    rw [Nat.max_comm]
    exact (retains_filled capacity edits).retained_eq
  refine ⟨hretained, ?_, fun goBack => ?_⟩
  · rw [hretained, List.rtake, List.length_drop]
    omega
  · have hk : min goBack (h.retained.length - 1) = h.steps goBack := by
      rw [retained, List.length_reverse, steps]
    intro k
    have hk : k = h.steps goBack := hk
    rw [hk]
    refine ⟨fun hnone => ?_, fun hsome => ?_⟩
    · obtain ⟨htimed, haverage⟩ := timedDelta_of_steps_eq_zero hnone
      exact ⟨congrArg Prod.fst htimed, htimed, haverage⟩
    · obtain ⟨old, new, hold, hnew, hwindow⟩ := window?_eq hsome
      have htimed : h.timedDelta goBack =
          (new.value - old.value, new.takenAt - old.takenAt) := by
        rw [timedDelta, hwindow]
      have hdelta : h.delta goBack = new.value - old.value := congrArg Prod.fst htimed
      refine ⟨old, new, hold, hnew, hdelta, htimed, ?_⟩
      rw [averageDelta, if_neg hsome, hdelta]

/-- Five samples, a clearing in between, and room for two: two steps back are one. -/
example :
    let h := filled 2 [.add 9 0, .clear, .add 10 100, .add 20 110, .add 35 125]
    h.retained = [⟨20, 110⟩, ⟨35, 125⟩] ∧ h.timedDelta 2 = (15, 15) := by
  decide

end SystemMetrics.History
