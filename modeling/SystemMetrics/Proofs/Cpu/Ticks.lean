import Mathlib.Tactic.Linarith
import SystemMetrics.Proofs.Cpu.Histories
import SystemMetrics.Proofs.Retained

/-!
# The ticks of a window

A processor that only rows feed has the same rows behind all of its histories, so a window compares
the same two rows in each of them. Where no counter fell and no sum stopped at the largest number,
the total grew by exactly what the other counters grew by.
-/

namespace SystemMetrics

/-! ## Rows -/

namespace Proc

/-- The exact sum of all columns. -/
def TickRow.sum (t : TickRow) : Nat :=
  t.user + t.nice + t.system + t.idle + t.iowait + t.irq + t.softirq

theorem TickRow.total_eq (t : TickRow) : t.total = min t.sum (Text.word64 - 1) := by
  simp only [total, sum, List.foldl_cons, List.foldl_nil, addSaturating, Text.word64]
  omega

/-- No counter is above that of the other row. -/
def TickRow.Below (a b : TickRow) : Prop :=
  a.user ≤ b.user ∧ a.nice ≤ b.nice ∧ a.system ≤ b.system ∧ a.idle ≤ b.idle ∧
    a.iowait ≤ b.iowait ∧ a.irq ≤ b.irq ∧ a.softirq ≤ b.softirq

instance (a b : TickRow) : Decidable (a.Below b) := inferInstanceAs (Decidable (_ ∧ _))

theorem addSaturating_le {a b a' b' : Nat} (ha : a ≤ a') (hb : b ≤ b') :
    addSaturating a b ≤ addSaturating a' b' := by
  unfold addSaturating
  omega

/-- The sum of all counters grows with them, also where it stops at the largest number. -/
theorem TickRow.Below.countersOf_le {a b : TickRow} (h : a.Below b) (k : CpuMetric) :
    (Processor.countersOf a).get k ≤ (Processor.countersOf b).get k := by
  obtain ⟨huser, hnice, hsystem, hidle, hiowait, hirq, hsoftirq⟩ := h
  cases k with
  | user => exact huser
  | nice => exact hnice
  | system => exact hsystem
  | idle => exact hidle
  | iowait => exact hiowait
  | irq => exact hirq
  | softirq => exact hsoftirq
  | total =>
    show a.total ≤ b.total
    simp only [TickRow.total, List.foldl_cons, List.foldl_nil]
    refine addSaturating_le (addSaturating_le (addSaturating_le ?_ hiowait) hirq) hsoftirq
    exact addSaturating_le (addSaturating_le (addSaturating_le huser hnice) hsystem) hidle

theorem TickRow.Below.refl (a : TickRow) : a.Below a := by
  simp [Below]

/-! ### Changes from one row to another -/

/-- What the columns that are higher in the second row have gained, taken together. -/
def TickRow.rise (a b : TickRow) : Nat :=
  (b.user - a.user) + (b.nice - a.nice) + (b.system - a.system) + (b.idle - a.idle) +
    (b.iowait - a.iowait) + (b.irq - a.irq) + (b.softirq - a.softirq)

/-- What the sum of a row loses where it stops at the largest 64-bit number. -/
def TickRow.overflow (t : TickRow) : Nat := t.sum - t.total

theorem TickRow.total_add_overflow (t : TickRow) : t.total + t.overflow = t.sum := by
  have htotal := t.total_eq
  rw [overflow]
  omega

theorem TickRow.overflow_eq_zero {t : TickRow} (h : t.sum < 2 ^ 64) : t.overflow = 0 := by
  rw [overflow, total_eq, Text.word64]
  omega

/-- The columns that rose and those that fell make up the difference of the sums. -/
theorem TickRow.sum_add_rise (a b : TickRow) : a.sum + a.rise b = b.sum + b.rise a := by
  have hcolumn (x y : Nat) : x + (y - x) = y + (x - y) := by omega
  simp only [sum, rise]
  linarith [hcolumn a.user b.user, hcolumn a.nice b.nice, hcolumn a.system b.system,
    hcolumn a.idle b.idle, hcolumn a.iowait b.iowait, hcolumn a.irq b.irq,
    hcolumn a.softirq b.softirq]

theorem TickRow.Below.rise_eq_zero {a b : TickRow} (h : a.Below b) : b.rise a = 0 := by
  obtain ⟨huser, hnice, hsystem, hidle, hiowait, hirq, hsoftirq⟩ := h
  rw [rise]
  omega

/-- From one row to a row above it, the total grows by what the columns gain. -/
theorem TickRow.Below.total_sub {a b : TickRow} (h : a.Below b) (ha : a.sum < 2 ^ 64)
    (hb : b.sum < 2 ^ 64) : b.total - a.total = a.rise b := by
  have hnothing := h.rise_eq_zero
  have hbalance := sum_add_rise a b
  have hlower := a.total_add_overflow
  have hupper := b.total_add_overflow
  rw [overflow_eq_zero ha] at hlower
  rw [overflow_eq_zero hb] at hupper
  omega

end Proc

namespace Processor

/-! ## Processors fed by rows -/

/-- A row and the time at which it was recorded. -/
structure Recorded where
  row : Proc.TickRow
  takenAt : Nat
  deriving DecidableEq, Repr

/-- The processors that rows lead to, with these rows, the newest first. -/
inductive Fed (capacity : Nat) : List Recorded → Processor → Prop
  | new (number : Nat) : Fed capacity [] (.new number capacity)
  | newTotal : Fed capacity [] (.newTotal capacity)
  | record {rows : List Recorded} {p : Processor} (h : Fed capacity rows p) (row : Proc.TickRow)
      (takenAt : Nat) : Fed capacity (⟨row, takenAt⟩ :: rows) (p.record row takenAt)

variable {capacity goBack : Nat} {rows : List Recorded} {newest oldest : Recorded} {p : Processor}

theorem Fed.retains (h : Fed capacity rows p) (k : CpuMetric) :
    (p.history k).Retains capacity
      (rows.map fun r => ⟨(countersOf r.row).get k, r.takenAt⟩) := by
  induction h with
  | new number =>
    rw [history_new]
    exact History.retains_new capacity
  | newTotal =>
    rw [history_newTotal]
    exact History.retains_new capacity
  | record _ row takenAt ih =>
    rw [history_record]
    exact ih.add _ takenAt

/-- The rows that a window spans: those that the histories still hold, and of these one more than
the steps that it goes back. -/
def window (capacity goBack : Nat) (rows : List Recorded) : List Recorded :=
  (rows.take (max capacity 1)).take (goBack + 1)

theorem window_sublist (capacity goBack : Nat) (rows : List Recorded) :
    (window capacity goBack rows).Sublist rows :=
  (List.take_sublist _ _).trans (List.take_sublist _ _)

theorem Fed.tickDeltas_eq (h : Fed capacity rows p) (goBack : Nat) :
    p.tickDeltas goBack =
      .tabulate fun k => History.growth (fun r => (countersOf r.row).get k)
        (window capacity goBack rows) :=
  congrArg PerMetric.tabulate (funext fun k => (h.retains k).delta_eq goBack)

/-- A window compares its newest row with its oldest one, and without rows nothing grew. -/
theorem Fed.tickDeltas_cases (h : Fed capacity rows p) (goBack : Nat) :
    p.tickDeltas goBack = .tabulate (fun _ => 0) ∨
      ∃ newest oldest, (window capacity goBack rows).head? = some newest ∧
        (window capacity goBack rows).getLast? = some oldest ∧
        p.tickDeltas goBack =
          .tabulate fun k => (countersOf newest.row).get k - (countersOf oldest.row).get k := by
  rw [h.tickDeltas_eq goBack]
  cases window capacity goBack rows with
  | nil => exact Or.inl rfl
  | cons newest older =>
    have holdest := List.getLast?_eq_some_getLast (List.cons_ne_nil newest older)
    refine Or.inr ⟨newest, _, rfl, holdest, ?_⟩
    exact congrArg PerMetric.tabulate (funext fun k => History.growth_eq rfl holdest)

theorem below_ends {l : List Recorded}
    (hgrow : l.Pairwise fun newer older => older.row.Below newer.row)
    (hnewest : l.head? = some newest) (holdest : l.getLast? = some oldest) :
    oldest.row.Below newest.row := by
  cases l with
  | nil => cases hnewest
  | cons first older =>
    cases hnewest
    rcases List.mem_cons.mp (List.mem_of_getLast? holdest) with rfl | hmem
    · exact .refl _
    · exact (List.pairwise_cons.mp hgrow).1 oldest hmem

/-! ## Conservation -/

/-- No time is lost over a window: where no counter ever fell from a row to a later one and every row
has a sum of 64 bits, the total grew by as much as the other counters together, and by as much as all
but the idle one grew when the idle time is taken off. -/
theorem Fed.ticks_conserved (h : Fed capacity rows p)
    (hgrow : rows.Pairwise fun newer older => older.row.Below newer.row)
    (hsum : ∀ r ∈ rows, r.row.sum < 2 ^ 64) (goBack : Nat) :
    let ticks := p.tickDeltas goBack
    ticks.total = ticks.user + ticks.nice + ticks.system + ticks.idle + ticks.iowait + ticks.irq +
        ticks.softirq ∧
      ticks.total - ticks.idle = ticks.user + ticks.nice + ticks.system + ticks.iowait + ticks.irq +
        ticks.softirq := by
  intro ticks
  have hconserved : ticks.total = ticks.user + ticks.nice + ticks.system + ticks.idle +
      ticks.iowait + ticks.irq + ticks.softirq := by
    rcases h.tickDeltas_cases goBack with hnone | ⟨newest, oldest, hnewest, holdest, hticks⟩
    · rw [show ticks = _ from hnone]
      rfl
    · have hsublist := window_sublist capacity goBack rows
      have hbelow := below_ends (hgrow.sublist hsublist) hnewest holdest
      have hnew := hsum newest (hsublist.subset (List.mem_of_head? hnewest))
      have hold := hsum oldest (hsublist.subset (List.mem_of_getLast? holdest))
      rw [show ticks = _ from hticks]
      exact hbelow.total_sub hold hnew
  exact ⟨hconserved, by omega⟩

/-- Three rows, the newest first, whose sums come near the largest one. -/
def rising : List Recorded :=
  [⟨⟨15, 2, 5, 18446744073709551011, 1, 1, 2⟩, 30⟩,
    ⟨⟨12, 1, 4, 18446744073709551007, 1, 0, 1⟩, 20⟩,
    ⟨⟨10, 1, 2, 18446744073709551000, 0, 0, 1⟩, 10⟩]

/-- A capacity of two leaves the oldest row behind, so a window of five steps spans one. -/
theorem ticks_conserved_evicted :
    let p := rising.foldr (fun r p => p.record r.row r.takenAt) (newTotal 2)
    let ticks := p.tickDeltas 5
    Fed 2 rising p ∧
    (rising.Pairwise fun newer older => older.row.Below newer.row) ∧
    (∀ r ∈ rising, r.row.sum < 2 ^ 64) ∧
    ticks = ⟨3, 1, 1, 4, 0, 1, 1, 11⟩ ∧
    ticks.total = ticks.user + ticks.nice + ticks.system + ticks.idle + ticks.iowait + ticks.irq +
        ticks.softirq ∧
      ticks.total - ticks.idle = ticks.user + ticks.nice + ticks.system + ticks.iowait + ticks.irq +
        ticks.softirq := by
  intro p ticks
  have hfed : Fed 2 rising p := ((Fed.newTotal.record _ 10).record _ 20).record _ 30
  have hgrow : rising.Pairwise fun newer older => older.row.Below newer.row := by decide
  have hsum : ∀ r ∈ rising, r.row.sum < 2 ^ 64 := by decide
  exact ⟨hfed, hgrow, hsum, by decide +kernel, hfed.ticks_conserved hgrow hsum 5⟩

end Processor

end SystemMetrics
