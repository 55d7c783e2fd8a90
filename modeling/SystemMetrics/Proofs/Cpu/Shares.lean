import Mathlib
import SystemMetrics.Proofs.Cpu.Ticks
import SystemMetrics.Proofs.Rounding
import SystemMetrics.Report

/-!
# Shares of a window

A share of a window is at most the whole as long as the counter did not outgrow the total. It can
outgrow it: what other counters lose is taken from the total, which is the growth of a sum, and from
nowhere else, because each of their own deltas stops at zero.
-/

namespace SystemMetrics

/-! ## Rounded shares -/

namespace Binary64

variable {v w p : ℚ} {part whole : ℕ}

theorem stands_zero : Stands 0.0 0 := .zero

theorem stands_hundred : Stands 100.0 100 := by
  have hvalue : ((100 * 2 ^ 46 : ℕ) : ℚ) * 2 ^ (-46 : ℤ) = 100 := by norm_num
  rw [← hvalue]
  exact .finite (by decide) (by decide) (by decide)

theorem above_hundred_eq : (100 + 1 / 2 ^ 46 : ℚ) = (100 * 2 ^ 46 + 1 : ℕ) * 2 ^ (-46 : ℤ) := by
  norm_num

/-- The float that comes after 100. -/
theorem stands_above_hundred : Stands 100.00000000000001 (100 + 1 / 2 ^ 46) := by
  rw [above_hundred_eq]
  exact .finite (by decide) (by decide) (by decide)

theorem bounded_hundred : Bounded 7 100 := Or.inr (by norm_num)

theorem stands_share (hpart : part < 2 ^ 64) (hwhole : whole < 2 ^ 64) (hpos : 0 < w)
    (hp : Stands (counterToFloat part) p) (hp' : Rounds part p)
    (hw : Stands (counterToFloat whole) w) (hw' : Rounds whole w) :
    ∃ q r, Rounds (p * 100) q ∧ Rounds (q / w) r ∧
      Stands (counterToFloat part * 100.0 / counterToFloat whole) r := by
  have hproduct := (hp'.bounded (bounded_counter hpart)).mul bounded_hundred
  obtain ⟨q, hq, hq'⟩ := hp.mul stands_hundred (hproduct.mono (by norm_num))
  have hquotient := (hq'.bounded hproduct).div (hw'.bounded (bounded_counter hwhole))
  obtain ⟨r, hr, hr'⟩ := hq.div hw hpos (hquotient.mono (by norm_num))
  exact ⟨q, r, hq', hr', hr⟩

theorem Rounds.counter_pos (h : Rounds whole w) (hpos : 0 < whole) : 1 ≤ w := by
  exact_mod_cast h.natCast_le (m := 1) (by norm_num) (Nat.cast_le.mpr hpos)

end Binary64

open Binary64

variable {part whole : ℕ}

theorem share_nonneg (hpart : part < 2 ^ 64) (hwhole : whole < 2 ^ 64) (hpos : 0 < whole) :
    0.0 ≤ counterToFloat part * 100.0 / counterToFloat whole := by
  obtain ⟨p, hp, hp'⟩ := stands_counterToFloat hpart
  obtain ⟨w, hw, hw'⟩ := stands_counterToFloat hwhole
  obtain ⟨q, r, -, hr, hshare⟩ := stands_share hpart hwhole
    (zero_lt_one.trans_le (hw'.counter_pos hpos)) hp hp' hw hw'
  exact (Stands.le_iff stands_zero hshare).mpr hr.nonneg

/-- A part of a whole can only be rounded to the float after 100. -/
theorem share_le (hle : part ≤ whole) (hwhole : whole < 2 ^ 64) (hpos : 0 < whole) :
    counterToFloat part * 100.0 / counterToFloat whole ≤ 100.00000000000001 := by
  obtain ⟨p, hp, hp'⟩ := stands_counterToFloat (hle.trans_lt hwhole)
  obtain ⟨w, hw, hw'⟩ := stands_counterToFloat hwhole
  have hwpos := zero_lt_one.trans_le (hw'.counter_pos hpos)
  have hpw : p ≤ w := by
    rcases hle.eq_or_lt with rfl | hlt
    · exact (Represents.unique hp hw).le
    · exact hp'.mono hw' (by exact_mod_cast hlt)
  obtain ⟨q, r, hq, hr, hshare⟩ := stands_share (hle.trans_lt hwhole) hwhole hwpos hp hp' hw hw'
  refine (Stands.le_iff hshare stands_above_hundred).mpr ?_
  have hquotient : q / w ≤ 100 + 1 / 2 ^ 46 := by
    rw [div_le_iff₀ hwpos]
    have herror := hq.error
    linarith
  rw [above_hundred_eq] at hquotient ⊢
  exact hr.le (by norm_num) hquotient

/-- Where all the numbers on the way are floats, a share says exactly whether it is one of a part. -/
theorem share_le_hundred_iff (hpart : part < 2 ^ 64) (hexact : 100 * whole ≤ 2 ^ 53)
    (hpos : 0 < whole) :
    counterToFloat part * 100.0 / counterToFloat whole ≤ 100.0 ↔ part ≤ whole := by
  have hsmall : whole + 1 < 2 ^ 53 := by omega
  obtain ⟨p, hp, hp'⟩ := stands_counterToFloat hpart
  obtain ⟨w, hw, hw'⟩ := stands_counterToFloat (n := whole) (by omega)
  have hwhole : w = whole := hw'.eq_natCast (by omega)
  have hwpos : 0 < w := zero_lt_one.trans_le (hw'.counter_pos hpos)
  obtain ⟨q, r, hq, hr, hshare⟩ := stands_share hpart (by omega) hwpos hp hp' hw hw'
  rw [hwhole] at hr hwpos
  rw [Stands.le_iff hshare stands_hundred]
  constructor
  · intro hle
    by_contra hlt
    -- One more than the whole is too much for the last two roundings to hide.
    have hp'' : ((whole + 1 : ℕ) : ℚ) ≤ p :=
      hp'.natCast_le hsmall (Nat.cast_le.mpr (Nat.lt_of_not_le hlt))
    have hq' : ((100 * whole + 50 : ℕ) : ℚ) ≤ q := by
      refine hq.natCast_le (by omega) ?_
      push_cast at hp'' ⊢
      linarith
    have hquotient : (100 + 1 / 2 ^ 46 : ℚ) ≤ q / whole := by
      rw [le_div_iff₀ hwpos]
      have hexact' : (100 * whole : ℚ) ≤ 2 ^ 53 := by exact_mod_cast hexact
      push_cast at hq'
      linarith
    rw [above_hundred_eq] at hquotient
    have hr' := hr.ge (by norm_num) hquotient
    rw [← above_hundred_eq] at hr'
    linarith
  · intro hle
    have hp'' : p ≤ whole := hp'.le_natCast (by omega) (Nat.cast_le.mpr hle)
    have hq' : q ≤ (100 * whole : ℕ) := by
      refine hq.le_natCast (by omega) ?_
      push_cast
      linarith
    have hquotient : q / whole ≤ (100 : ℕ) := by
      rw [div_le_iff₀ hwpos]
      exact_mod_cast hq'
    exact_mod_cast hr.le_natCast (by norm_num) hquotient

/-! ## Shares of ticks -/

namespace Proc

/-- Something fits into the growth of a total if, with what columns lost and what the later sum cut
off, it fits into what columns gained and what the earlier sum cut off. -/
theorem TickRow.le_total_sub_iff {a b : TickRow} (h : b.total - a.total ≠ 0) (x : ℕ) :
    x ≤ b.total - a.total ↔ x + b.rise a + b.overflow ≤ a.rise b + a.overflow := by
  have hbalance := sum_add_rise a b
  have hlower := a.total_add_overflow
  have hupper := b.total_add_overflow
  omega

end Proc

namespace CpuTicks

variable {ticks : CpuTicks} {k : CpuMetric}

theorem percent_bounds (hget : ticks.get k < 2 ^ 64) (htotal : ticks.total < 2 ^ 64)
    (hsome : ticks.total ≠ 0) :
    ∃ share, ticks.percent k = some share ∧ 0.0 ≤ share ∧
      (ticks.get k ≤ ticks.total → share ≤ 100.00000000000001) ∧
      (100 * ticks.total ≤ 2 ^ 53 → (share ≤ 100.0 ↔ ticks.get k ≤ ticks.total)) := by
  have hpos := Nat.pos_of_ne_zero hsome
  exact ⟨_, if_neg hsome, share_nonneg hget htotal hpos, fun hle => share_le hle htotal hpos,
    fun hexact => share_le_hundred_iff hget hexact hpos⟩

theorem percentBusy_bounds (htotal : ticks.total < 2 ^ 64) (hsome : ticks.total ≠ 0) :
    ∃ share, ticks.percentBusy = some share ∧ 0.0 ≤ share ∧ share ≤ 100.00000000000001 ∧
      (100 * ticks.total ≤ 2 ^ 53 → share ≤ 100.0) := by
  have hpos := Nat.pos_of_ne_zero hsome
  have hle := Nat.sub_le ticks.total ticks.idle
  exact ⟨_, if_neg hsome, share_nonneg (hle.trans_lt htotal) htotal hpos,
    share_le hle htotal hpos,
    fun hexact => (share_le_hundred_iff (hle.trans_lt htotal) hexact hpos).mpr hle⟩

end CpuTicks

namespace Processor

variable {capacity goBack : ℕ} {rows : List Recorded} {p : Processor}

/-- In a window that is not empty, the share of a counter is one of a part exactly if the counter grew
by no more than all of them gained, less what any of them lost and what the sum of the newest row
lost where it stopped at the largest 64-bit number. The percentage of a part is at least 0 and at most
100, or the float after it where it had to be rounded; as long as a hundred times the total is exact as
a float, it is at most 100 for a part and for nothing else. The busy share is always that of a
part. -/
theorem Fed.shares_within_iff (h : Fed capacity rows p)
    (hwords : ∀ r ∈ rows, ∀ k, (countersOf r.row).get k < 2 ^ 64)
    (hsome : (p.tickDeltas goBack).total ≠ 0) :
    let ticks := p.tickDeltas goBack
    ∃ newest oldest, (window capacity goBack rows).head? = some newest ∧
      (window capacity goBack rows).getLast? = some oldest ∧
      (∀ k, ticks.get k ≤ ticks.total ↔
        ticks.get k + newest.row.rise oldest.row + newest.row.overflow ≤
          oldest.row.rise newest.row + oldest.row.overflow) ∧
      (∀ k, ∃ share, ticks.percent k = some share ∧ 0.0 ≤ share ∧
        (ticks.get k ≤ ticks.total → share ≤ 100.00000000000001) ∧
        (100 * ticks.total ≤ 2 ^ 53 → (share ≤ 100.0 ↔ ticks.get k ≤ ticks.total))) ∧
      (∃ busy, ticks.percentBusy = some busy ∧ 0.0 ≤ busy ∧ busy ≤ 100.00000000000001 ∧
        (100 * ticks.total ≤ 2 ^ 53 → busy ≤ 100.0)) ∧
      (goBack = (p.history .total).capacity → ∀ cpus, let report := CpuReport.ofTotal p cpus
        report.busy = ticks.percentBusy ∧ report.user = ticks.percent .user ∧
          report.system = ticks.percent .system ∧ report.iowait = ticks.percent .iowait) := by
  intro ticks
  rcases h.tickDeltas_cases goBack with hnone | ⟨newest, oldest, hnewest, holdest, hticks⟩
  · exact absurd (congrArg PerMetric.total hnone) hsome
  · have hget (k : CpuMetric) : ticks.get k < 2 ^ 64 := by
      have hword := hwords newest
        ((window_sublist capacity goBack rows).subset (List.mem_of_head? hnewest)) k
      rw [show ticks = _ from hticks, PerMetric.get_tabulate]
      omega
    have htotal : ticks.total = newest.row.total - oldest.row.total :=
      congrArg PerMetric.total hticks
    refine ⟨newest, oldest, hnewest, holdest, fun k => ?_, fun k => ?_, ?_, ?_⟩
    · rw [htotal]
      exact Proc.TickRow.le_total_sub_iff (htotal ▸ hsome) _
    · exact CpuTicks.percent_bounds (hget k) (hget .total) hsome
    · exact CpuTicks.percentBusy_bounds (hget .total) hsome
    · rintro rfl cpus
      exact ⟨rfl, rfl, rfl, rfl⟩

/-- Two rows, the newer one first, between which iowait steps back. -/
def steppedBack : List Recorded := [⟨{ user := 100, iowait := 50 }, 20⟩, ⟨{ iowait := 100 }, 10⟩]

/-- Half of the user time is lost from the total, and the report has a user share of 200 %. -/
theorem shares_above_whole :
    let p := steppedBack.foldr (fun r p => p.record r.row r.takenAt) (newTotal 2)
    let ticks := p.tickDeltas 2
    Fed 2 steppedBack p ∧ (∀ r ∈ steppedBack, ∀ k, (countersOf r.row).get k < 2 ^ 64) ∧
    ticks = ⟨100, 0, 0, 0, 0, 0, 0, 50⟩ ∧
    (CpuReport.ofTotal p 4).user = some 200.0 ∧
    ∃ share, (CpuReport.ofTotal p 4).user = some share ∧ ¬ share ≤ 100.0 := by
  intro p ticks
  have hfed : Fed 2 steppedBack p := (Fed.newTotal.record _ 10).record _ 20
  have hwords : ∀ r ∈ steppedBack, ∀ k, (countersOf r.row).get k < 2 ^ 64 := by
    intro r hr k
    revert r
    cases k <;> decide
  have hsome : (p.tickDeltas 2).total ≠ 0 := by decide +kernel
  obtain ⟨newest, oldest, -, -, -, hpercent, -, hreport⟩ := hfed.shares_within_iff hwords hsome
  obtain ⟨share, hshare, -, -, hiff⟩ := hpercent .user
  refine ⟨hfed, hwords, by decide +kernel, by decide +kernel, share, ?_, ?_⟩
  · rw [(hreport rfl 4).2.1]
    exact hshare
  · rw [hiff (by decide +kernel)]
    decide +kernel

end Processor

end SystemMetrics
