import SystemMetrics.Proofs.Windows

/-!
# Counters that go back

A counter may wrap or be reset anywhere in a window and recover later. What it counted over the
window is the sum of the steps from each sample to the next, where a step back counts as zero. A
delta is never more than that, and exactly that as long as the counter does not go back.
-/

namespace SystemMetrics.History

/-- How much the last of some values exceeds the first. -/
def rise : List Nat → Nat
  | [] => 0
  | first :: values => values.getLastD first - first

/-- The sum of the steps from each value to the next; a step back counts as zero. -/
def counted : List Nat → Nat
  | older :: newer :: values => newer - older + counted (newer :: values)
  | _ => 0

variable {values more : List Nat} {first : Nat} {h : History}

/-! ## Rises and steps -/

/-- Steps forward make up for a rise, and steps back take nothing from it. -/
theorem rise_le_counted (values : List Nat) : rise values ≤ counted values := by
  induction values with
  | nil => exact Nat.le_refl 0
  | cons first values ih =>
    cases values with
    | nil => exact (Nat.sub_self first).le
    | cons second values =>
      rw [rise, counted, List.getLastD_cons]
      rw [rise] at ih
      omega

theorem le_last (hle : (first :: values).Pairwise (· ≤ ·)) : first ≤ values.getLastD first := by
  induction values generalizing first with
  | nil => exact Nat.le_refl first
  | cons second values ih =>
    obtain ⟨hfirst, hrest⟩ := List.pairwise_cons.mp hle
    rw [List.getLastD_cons]
    exact (hfirst second List.mem_cons_self).trans (ih hrest)

theorem rise_eq_counted (hle : values.Pairwise (· ≤ ·)) : rise values = counted values := by
  induction values with
  | nil => rfl
  | cons first values ih =>
    cases values with
    | nil => exact Nat.sub_self first
    | cons second values =>
      obtain ⟨hfirst, hrest⟩ := List.pairwise_cons.mp hle
      have hstep := hfirst second List.mem_cons_self
      have hlast := le_last hrest
      have ih := ih hrest
      rw [rise, counted, List.getLastD_cons]
      rw [rise] at ih
      omega

/-- Going back further, a counter that never goes back rises more. -/
theorem rise_le_append (hle : (more ++ values).Pairwise (· ≤ ·)) :
    rise values ≤ rise (more ++ values) := by
  induction more with
  | nil => exact Nat.le_refl _
  | cons first more ih =>
    obtain ⟨hfirst, hrest⟩ := List.pairwise_cons.mp hle
    refine (ih hrest).trans ?_
    cases hmore : more ++ values with
    | nil => exact Nat.zero_le _
    | cons second rest =>
      have hstep := hfirst second (by rw [List.append_eq, hmore]; exact List.mem_cons_self)
      rw [List.cons_append, hmore, rise, rise, List.getLastD_cons]
      omega

/-! ## Windows -/

/-- The values that a window spans, the oldest first. -/
def spanned (h : History) (goBack : Nat) : List Nat := h.values.rtake (goBack + 1)

theorem growth_eq_rise (values : List Nat) : growth id values.reverse = rise values := by
  cases values with
  | nil => rfl
  | cons first values =>
    rw [List.reverse_cons, rise, growth, List.getLast?_concat, List.head?_append,
      List.head?_reverse, List.getLastD_eq_getLast?]
    cases values.getLast? <;> rfl

theorem delta_eq_rise (h : History) (goBack : Nat) : h.delta goBack = rise (h.spanned goBack) := by
  have hspanned : (h.spanned goBack).reverse =
      (h.samples.take (goBack + 1)).map fun sample => sample.value := by
    rw [spanned, List.rtake_eq_reverse_take_reverse, List.reverse_reverse, values, List.map_reverse,
      List.reverse_reverse, List.map_take]
  rw [delta_eq_growth, ← growth_eq_rise, hspanned, growth_map]
  rfl

theorem delta_le_latest (h : History) (goBack : Nat) :
    h.delta goBack ≤ (h.latest?.map (·.value)).getD 0 := by
  rw [delta_eq_growth, growth, List.head?_take, if_neg (Nat.succ_ne_zero goBack)]
  exact Nat.sub_le _ _

theorem delta_mono (hle : h.values.Pairwise (· ≤ ·)) {less goBack : Nat} (hless : less ≤ goBack) :
    h.delta less ≤ h.delta goBack := by
  rw [delta_eq_rise, delta_eq_rise]
  have hsuffix : h.spanned less <:+ h.spanned goBack := List.drop_suffix_drop_left _ (by omega)
  have hspanned : (h.spanned goBack).Pairwise (· ≤ ·) := hle.sublist (List.drop_sublist _ _)
  obtain ⟨more, hmore⟩ := hsuffix
  rw [← hmore] at hspanned ⊢
  exact rise_le_append hspanned

theorem delta_of_length_le {goBack : Nat} (hlen : h.length - 1 ≤ goBack) :
    h.delta goBack = h.delta (h.length - 1) := by
  rw [length] at hlen ⊢
  rw [delta_eq_growth, delta_eq_growth, List.take_of_length_le (by omega),
    List.take_of_length_le (by omega)]

theorem spanned_filled (capacity : Nat) (edits : List Edit) (goBack : Nat) :
    (filled capacity edits).spanned goBack =
      ((sinceClear edits).rtake (min (max 1 capacity) (goBack + 1))).map (·.value) := by
  have hvalues : (filled capacity edits).values =
      ((sinceClear edits).rtake (max 1 capacity)).map (·.value) := by
    rw [Nat.max_comm, ← (retains_filled capacity edits).retained_eq]
    rfl
  rw [spanned, hvalues]
  simp only [List.rtake_eq_reverse_take_reverse, List.map_reverse, List.reverse_reverse,
    List.map_take, List.take_take, Nat.min_comm]

/-- Whatever a counter does, a delta is at most the newest value and at most what was counted from
sample to sample, all of it if no step in the window goes back. If none of the retained ones does,
going back further never makes the delta smaller; and beyond the oldest sample it stays the same. -/
theorem delta_within_counted (capacity : Nat) (edits : List Edit) (goBack : Nat) :
    let h := filled capacity edits
    let window := ((sinceClear edits).rtake (min (max 1 capacity) (goBack + 1))).map (·.value)
    h.delta goBack ≤ (h.latest?.map (·.value)).getD 0 ∧
    h.delta goBack ≤ counted window ∧
    (window.Pairwise (· ≤ ·) → h.delta goBack = counted window) ∧
    (h.length - 1 ≤ goBack → h.delta goBack = h.delta (h.length - 1)) ∧
    (h.values.Pairwise (· ≤ ·) → ∀ less ≤ goBack, h.delta less ≤ h.delta goBack) := by
  intro h window
  have hdelta : h.delta goBack = rise window := by
    rw [delta_eq_rise, spanned_filled]
  refine ⟨delta_le_latest h goBack, ?_, fun hle => ?_, delta_of_length_le,
    fun hle less hless => delta_mono hle hless⟩
  · rw [hdelta]
    exact rise_le_counted window
  · rw [hdelta]
    exact rise_eq_counted hle

/-- A counter that is reset to 2 and recovers. -/
def resetOnce : List Edit := [.add 5 0, .clear, .add 70 1, .add 10 2, .add 2 3, .add 9 4, .add 15 5]

theorem delta_within_counted_reset :
    (filled 4 resetOnce).delta 3 = 5 ∧ (filled 4 resetOnce).delta 3 ≤ counted [10, 2, 9, 15] ∧
    (filled 4 resetOnce).delta 2 = counted [2, 9, 15] ∧
    (filled 4 resetOnce).delta 7 = (filled 4 resetOnce).delta 3 ∧
    (filled 3 resetOnce).delta 1 ≤ (filled 3 resetOnce).delta 2 := by
  obtain ⟨-, hcounted, -, -, -⟩ := delta_within_counted 4 resetOnce 3
  obtain ⟨-, -, hexact, -, -⟩ := delta_within_counted 4 resetOnce 2
  obtain ⟨-, -, -, hbeyond, -⟩ := delta_within_counted 4 resetOnce 7
  obtain ⟨-, -, -, -, hmono⟩ := delta_within_counted 3 resetOnce 2
  exact ⟨by decide, hcounted, hexact (by decide), hbeyond (by decide),
    hmono (by decide) 1 (by decide)⟩

end SystemMetrics.History
