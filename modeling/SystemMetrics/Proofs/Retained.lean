import SystemMetrics.History

/-!
# What a history retains

A history retains the latest of the samples that it has been fed, as many as its capacity allows.
A delta that goes back far enough is the growth from the oldest to the newest of them.
-/

namespace SystemMetrics.History

/-- A history that was made with a capacity and then fed some samples, the latest first. -/
structure Retains (capacity : Nat) (fed : List Sample) (h : History) : Prop where
  capacity_eq : h.capacity = max capacity 1
  samples_eq : h.samples = fed.take (max capacity 1)

variable {capacity : Nat} {fed : List Sample} {h : History}

theorem retains_new (capacity : Nat) : Retains capacity [] (new capacity) :=
  ⟨rfl, List.take_nil.symm⟩

theorem Retains.add (hr : Retains capacity fed h) (value takenAt : Nat) :
    Retains capacity (⟨value, takenAt⟩ :: fed) (h.add value takenAt) := by
  obtain ⟨hcapacity, hsamples⟩ := hr
  obtain ⟨n, hn⟩ : ∃ n, max capacity 1 = n + 1 := ⟨max capacity 1 - 1, by omega⟩
  refine ⟨hcapacity, ?_⟩
  rw [samples_add h value takenAt, hcapacity, hsamples, hn, List.take_succ_cons, List.take_succ_cons,
    List.take_take, Nat.min_eq_left (Nat.le_succ n)]
  · omega
  · rw [hsamples, hcapacity]
    exact List.length_take_le _ _

theorem Retains.values_eq {α : Type} {calls : List α} {f takenAt : α → Nat}
    (hr : Retains capacity (calls.map fun c => (⟨f c, takenAt c⟩ : Sample)) h) :
    h.values = ((calls.take (max capacity 1)).map f).reverse := by
  rw [values, hr.samples_eq, ← List.map_take, List.map_reverse, List.map_map]
  rfl

theorem values_add_sublist (h : History) (value takenAt : Nat) :
    (h.add value takenAt).values.Sublist (h.values ++ [value]) := by
  have hkept : (if h.samples.length ≥ h.capacity then h.samples.dropLast else h.samples).Sublist
      h.samples := by
    split
    · exact List.dropLast_sublist h.samples
    · exact List.Sublist.refl h.samples
  have hvalues : h.values ++ [value] =
      ((⟨value, takenAt⟩ : Sample) :: h.samples).reverse.map (·.value) := by
    rw [List.reverse_cons, List.map_append]
    rfl
  rw [hvalues]
  exact (hkept.cons_cons _).reverse.map _

/-! ## Deltas -/

/-- How much `f` grew from the last to the first of some things, zero if it fell. -/
def growth {α : Type} (f : α → Nat) (newestFirst : List α) : Nat :=
  (newestFirst.head?.map f).getD 0 - (newestFirst.getLast?.map f).getD 0

theorem growth_map {α β : Type} (f : β → Nat) (g : α → β) (l : List α) :
    growth f (l.map g) = growth (fun a => f (g a)) l := by
  simp [growth, Function.comp_def]

theorem growth_eq {α : Type} {f : α → Nat} {l : List α} {newest oldest : α}
    (hnewest : l.head? = some newest) (holdest : l.getLast? = some oldest) :
    growth f l = f newest - f oldest := by
  rw [growth, hnewest, holdest]
  rfl

/-- A window is the newest samples of a history, one more than the steps that it goes back. -/
theorem timedDelta_eq_growth (h : History) (goBack : Nat) :
    h.timedDelta goBack =
      (growth (·.value) (h.samples.take (goBack + 1)),
        growth (·.takenAt) (h.samples.take (goBack + 1))) := by
  rw [timedDelta, window?, latest?]
  cases hsamples : h.samples with
  | nil =>
    rw [if_pos (by rw [steps, hsamples, List.length_nil]; omega)]
    rfl
  | cons newest older =>
    have hlength : ((newest :: older).take (goBack + 1)).length - 1 = h.steps goBack := by
      rw [steps, hsamples, List.length_take]
      omega
    have hlt : h.steps goBack < (newest :: older).length := by
      rw [steps, hsamples, List.length_cons]
      omega
    have hlast : ((newest :: older).take (goBack + 1)).getLast? =
        some (newest :: older)[h.steps goBack] := by
      rw [List.getLast?_eq_getElem?, hlength, List.getElem?_take_of_lt (by rw [steps]; omega),
        List.getElem?_eq_getElem hlt]
    rw [growth_eq rfl hlast, growth_eq rfl hlast]
    by_cases hsteps : h.steps goBack = 0
    · simp only [hsteps, if_pos, List.getElem_cons_zero, Nat.sub_self]
    · rw [if_neg hsteps, List.getElem?_eq_getElem hlt]
      rfl

theorem delta_eq_growth (h : History) (goBack : Nat) :
    h.delta goBack = growth (·.value) (h.samples.take (goBack + 1)) :=
  congrArg Prod.fst (h.timedDelta_eq_growth goBack)

/-- A delta compares two of the things that fed the history. -/
theorem Retains.delta_eq {α : Type} {calls : List α} {f takenAt : α → Nat}
    (hr : Retains capacity (calls.map fun c => (⟨f c, takenAt c⟩ : Sample)) h) (goBack : Nat) :
    h.delta goBack = growth f ((calls.take (max capacity 1)).take (goBack + 1)) := by
  rw [delta_eq_growth, hr.samples_eq, ← List.map_take, ← List.map_take, growth_map]

/-- The delta over a full window compares the newest sample with the oldest one. -/
theorem Retains.delta_capacity {α : Type} {calls : List α} {f takenAt : α → Nat}
    (hr : Retains capacity (calls.map fun c => (⟨f c, takenAt c⟩ : Sample)) h) :
    h.delta h.capacity = growth f (calls.take (max capacity 1)) := by
  rw [hr.delta_eq, hr.capacity_eq, List.take_of_length_le]
  exact Nat.le_succ_of_le (List.length_take_le _ _)

end SystemMetrics.History
