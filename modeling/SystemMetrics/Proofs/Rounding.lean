import Mathlib
import SystemMetrics.History
import SystemMetrics.Proofs.Seconds

/-!
# Rounded numbers

The operations on floats round the exact result to a mantissa of 53 bits. Of that rounding only three
things matter to what is computed with it: it is off by half a unit in the last place at most, it
never crosses a number that is a float itself, and it keeps order. The floats here are zero or have
a full mantissa, as all are that come from counters.
-/

namespace SystemMetrics

namespace Binary64

open Float.Model Float.Model.UnpackedFloat

/-! ## Rounded numbers -/

/-- A number and what it is rounded to: a multiple of the unit that belongs to the binade of the
number, no more than half of that unit away. -/
inductive Rounds : ℚ → ℚ → Prop
  | zero : Rounds 0 0
  | binade {v : ℚ} (n : ℕ) (e : ℤ) (hlow : 2 ^ (e + 52) ≤ v) (hhigh : v < 2 ^ (e + 53))
      (hnear : |n * 2 ^ e - v| ≤ 2 ^ e / 2) : Rounds v (n * 2 ^ e)

variable {v v' w w' y : ℚ} {n m : ℕ} {e f : ℤ}

theorem unit_pos (e : ℤ) : (0 : ℚ) < 2 ^ e := zpow_pos (by norm_num) e

theorem unit_add (e : ℤ) (k : ℕ) : (2 : ℚ) ^ (e + k) = 2 ^ k * 2 ^ e := by
  rw [zpow_add₀ (by norm_num), zpow_natCast, mul_comm]

theorem unit_mono (h : e ≤ f) : (2 : ℚ) ^ e ≤ 2 ^ f := zpow_le_zpow_right₀ (by norm_num) h

theorem lt_of_unit_lt (h : (2 : ℚ) ^ e < 2 ^ f) : e < f :=
  (zpow_lt_zpow_iff_right₀ (by norm_num)).mp h

/-- A multiple of a larger unit is a multiple of a smaller one. -/
theorem multiple_of_le (h : f ≤ e) :
    (n : ℚ) * 2 ^ e = ((n * 2 ^ (e - f).toNat : ℕ) : ℚ) * 2 ^ f := by
  obtain ⟨k, rfl⟩ : ∃ k : ℕ, e = f + k := ⟨(e - f).toNat, by omega⟩
  rw [unit_add, add_sub_cancel_left, Int.toNat_natCast]
  push_cast
  ring

theorem near_le {N : ℕ} (hnear : |n * 2 ^ e - v| ≤ 2 ^ e / 2) (h : v ≤ N * 2 ^ e) : n ≤ N := by
  by_contra hlt
  have hstep : ((N + 1 : ℕ) : ℚ) * 2 ^ e ≤ n * 2 ^ e :=
    mul_le_mul_of_nonneg_right (by exact_mod_cast Nat.lt_of_not_le hlt) (unit_pos e).le
  have hunit := unit_pos e
  obtain ⟨-, hnear⟩ := abs_le.mp hnear
  push_cast at hstep
  linarith

theorem le_near {N : ℕ} (hnear : |n * 2 ^ e - v| ≤ 2 ^ e / 2) (h : N * 2 ^ e ≤ v) : N ≤ n := by
  by_contra hlt
  have hstep : ((n + 1 : ℕ) : ℚ) * 2 ^ e ≤ N * 2 ^ e :=
    mul_le_mul_of_nonneg_right (by exact_mod_cast Nat.lt_of_not_le hlt) (unit_pos e).le
  have hunit := unit_pos e
  obtain ⟨hnear, -⟩ := abs_le.mp hnear
  push_cast at hstep
  linarith

theorem le_of_near (hlow : 2 ^ (e + 52) ≤ v) (hnear : |n * 2 ^ e - v| ≤ 2 ^ e / 2) :
    2 ^ 52 ≤ n := by
  refine le_near hnear (le_of_eq_of_le ?_ hlow)
  rw [show e + 52 = e + (52 : ℕ) from rfl, unit_add]
  norm_num

/-- Rounding does not pass a number with a mantissa of 53 bits from below. -/
theorem Rounds.le (h : Rounds v w) (hm : m < 2 ^ 53) (hle : v ≤ m * 2 ^ f) : w ≤ m * 2 ^ f := by
  cases h with
  | zero => exact hle
  | binade n e hlow hhigh hnear =>
    rcases le_or_gt e f with hef | hef
    · rw [multiple_of_le hef] at hle ⊢
      exact mul_le_mul_of_nonneg_right (by exact_mod_cast near_le hnear hle) (unit_pos e).le
    · -- The binade of `v` lies above all that the smaller unit can reach.
      have hsmall : (m : ℚ) * 2 ^ f < 2 ^ (e + 52) := by
        calc (m : ℚ) * 2 ^ f < 2 ^ 53 * 2 ^ f :=
              mul_lt_mul_of_pos_right (by exact_mod_cast hm) (unit_pos f)
          _ = 2 ^ (f + (53 : ℕ)) := (unit_add f 53).symm
          _ ≤ 2 ^ (e + 52) := unit_mono (by push_cast; omega)
      linarith

/-- Nor does it from above. -/
theorem Rounds.ge (h : Rounds v w) (hm : m < 2 ^ 53) (hle : m * 2 ^ f ≤ v) : m * 2 ^ f ≤ w := by
  cases h with
  | zero => exact hle
  | binade n e hlow hhigh hnear =>
    rcases le_or_gt e f with hef | hef
    · rw [multiple_of_le hef] at hle ⊢
      exact mul_le_mul_of_nonneg_right (by exact_mod_cast le_near hnear hle) (unit_pos e).le
    · have hn := le_of_near hlow hnear
      calc (m : ℚ) * 2 ^ f ≤ 2 ^ 53 * 2 ^ f :=
            mul_le_mul_of_nonneg_right (by exact_mod_cast hm.le) (unit_pos f).le
        _ = 2 ^ (f + (53 : ℕ)) := (unit_add f 53).symm
        _ ≤ 2 ^ (e + (52 : ℕ)) := unit_mono (by push_cast; omega)
        _ = 2 ^ 52 * 2 ^ e := unit_add e 52
        _ ≤ n * 2 ^ e := mul_le_mul_of_nonneg_right (by exact_mod_cast hn) (unit_pos e).le

theorem Rounds.le_natCast (h : Rounds v w) (hm : m < 2 ^ 53) (hle : v ≤ m) : w ≤ m := by
  have hw := h.le (f := 0) hm (by rwa [zpow_zero, mul_one])
  rwa [zpow_zero, mul_one] at hw

theorem Rounds.natCast_le (h : Rounds v w) (hm : m < 2 ^ 53) (hle : m ≤ v) : m ≤ w := by
  have hw := h.ge (f := 0) hm (by rwa [zpow_zero, mul_one])
  rwa [zpow_zero, mul_one] at hw

theorem Rounds.eq_natCast (h : Rounds m w) (hm : m < 2 ^ 53) : w = m :=
  le_antisymm (h.le_natCast hm le_rfl) (h.natCast_le hm le_rfl)

theorem Rounds.nonneg (h : Rounds v w) : 0 ≤ w := by
  cases h with
  | zero => exact le_rfl
  | binade n e => exact mul_nonneg (Nat.cast_nonneg n) (unit_pos e).le

/-- Rounding is off by one part in `2 ^ 53` at most. -/
theorem Rounds.error (h : Rounds v w) : w ≤ v + v / 2 ^ 53 := by
  cases h with
  | zero => norm_num
  | binade n e hlow hhigh hnear =>
    obtain ⟨-, hnear⟩ := abs_le.mp hnear
    rw [show e + 52 = e + (52 : ℕ) from rfl, unit_add] at hlow
    linarith

theorem Rounds.mono (h : Rounds v w) (h' : Rounds v' w') (hlt : v < v') : w ≤ w' := by
  cases h with
  | zero => exact h'.nonneg
  | binade n e hlow hhigh hnear =>
    cases h' with
    | zero => linarith [unit_pos (e + 52)]
    | binade n' e' hlow' hhigh' hnear' =>
      have hbinade : e ≤ e' := by
        have := lt_of_unit_lt (hlow.trans_lt (hlt.trans hhigh'))
        omega
      rcases hbinade.eq_or_lt with rfl | hless
      · -- In one binade two nearest multiples can only cross where both are halfway.
        by_contra hcross
        have hstep : ((n' + 1 : ℕ) : ℚ) * 2 ^ e ≤ n * 2 ^ e := by
          have hn : (n' : ℚ) < n :=
            lt_of_mul_lt_mul_right (lt_of_not_ge hcross) (unit_pos e).le
          exact mul_le_mul_of_nonneg_right (by exact_mod_cast hn) (unit_pos e).le
        obtain ⟨-, hnear⟩ := abs_le.mp hnear
        obtain ⟨hnear', -⟩ := abs_le.mp hnear'
        push_cast at hstep
        linarith
      · have hedge : (2 : ℚ) ^ (e + 53) = (2 ^ 52 : ℕ) * 2 ^ (e + 1) := by
          rw [show e + 53 = e + 1 + (52 : ℕ) by push_cast; ring, unit_add]
          norm_num
        have hbelow : n * 2 ^ e ≤ (2 : ℚ) ^ (e + 53) := by
          rw [hedge]
          exact (Rounds.binade n e hlow hhigh hnear).le (by norm_num) (hedge ▸ hhigh.le)
        have habove : (2 : ℚ) ^ (e' + 52) ≤ n' * 2 ^ e' := by
          rw [show e' + 52 = e' + (52 : ℕ) from rfl, unit_add]
          exact mul_le_mul_of_nonneg_right (by exact_mod_cast le_of_near hlow' hnear')
            (unit_pos e').le
        exact hbelow.trans ((unit_mono (by omega)).trans habove)

/-! ## Orders of magnitude -/

/-- Zero, or no more than `k` binades away from one. An operation with a result within 1000 binades
leads neither to a subnormal float nor to infinity. -/
def Bounded (k : ℕ) (v : ℚ) : Prop := v = 0 ∨ 2 ^ (-k : ℤ) ≤ v ∧ v ≤ 2 ^ (k : ℤ)

variable {j k : ℕ}

theorem Bounded.mono (h : Bounded j v) (hle : j ≤ k) : Bounded k v := by
  rcases h with rfl | ⟨hlow, hhigh⟩
  · exact Or.inl rfl
  · exact Or.inr ⟨(unit_mono (by omega)).trans hlow, hhigh.trans (unit_mono (by omega))⟩

theorem Bounded.mul (h : Bounded j v) (h' : Bounded k v') : Bounded (j + k) (v * v') := by
  rcases h with rfl | ⟨hlow, hhigh⟩
  · exact Or.inl (zero_mul v')
  · rcases h' with rfl | ⟨hlow', hhigh'⟩
    · exact Or.inl (mul_zero v)
    · have hpos := (unit_pos _).le.trans hlow
      have hpos' := (unit_pos _).le.trans hlow'
      refine Or.inr ⟨?_, ?_⟩
      · rw [Nat.cast_add, neg_add, zpow_add₀ (by norm_num)]
        exact mul_le_mul hlow hlow' (unit_pos _).le hpos
      · rw [Nat.cast_add, zpow_add₀ (by norm_num)]
        exact mul_le_mul hhigh hhigh' hpos' (unit_pos _).le

theorem Bounded.inv (h : Bounded k v) : Bounded k v⁻¹ := by
  rcases h with rfl | ⟨hlow, hhigh⟩
  · exact Or.inl inv_zero
  · have hpos := (unit_pos _).trans_le hlow
    refine Or.inr ⟨?_, ?_⟩
    · rw [zpow_neg]
      exact inv_anti₀ hpos hhigh
    · rw [← neg_neg (k : ℤ), zpow_neg]
      exact inv_anti₀ (unit_pos _) hlow

theorem Bounded.div (h : Bounded j v) (h' : Bounded k v') : Bounded (j + k) (v / v') := by
  rw [div_eq_mul_inv]
  exact h.mul h'.inv

theorem Bounded.le (h : Bounded k v) : v ≤ 2 ^ (k : ℤ) := by
  rcases h with rfl | ⟨-, hhigh⟩
  · exact (unit_pos _).le
  · exact hhigh

theorem Rounds.bounded (h : Rounds v w) (hv : Bounded k v) : Bounded k w := by
  have hpow (f : ℤ) : (2 : ℚ) ^ f = (1 : ℕ) * 2 ^ f := by rw [Nat.cast_one, one_mul]
  rcases hv with rfl | ⟨hlow, hhigh⟩
  · refine Or.inl (le_antisymm ?_ h.nonneg)
    exact_mod_cast h.le_natCast (m := 0) (by norm_num) Nat.cast_zero.ge
  · rw [hpow] at hlow hhigh
    refine Or.inr ⟨?_, ?_⟩
    · rw [hpow]
      exact h.ge (by norm_num) hlow
    · rw [hpow]
      exact h.le (by norm_num) hhigh

theorem bounded_counter (hn : n < 2 ^ 64) : Bounded 64 n := by
  rcases Nat.eq_zero_or_pos n with rfl | hpos
  · exact Or.inl Nat.cast_zero
  · have hone : (1 : ℚ) ≤ n := by exact_mod_cast hpos
    refine Or.inr ⟨(zpow_le_one_of_nonpos₀ (by norm_num) (by norm_num)).trans hone, ?_⟩
    rw [zpow_natCast]
    exact_mod_cast hn.le

/-! ## Extended mantissas -/

/-- The mantissa is the whole part of `y`, the round bit says whether at least one half is left, and
the sticky bit whether there is anything beyond. -/
def Tracks (em : ExtendedMantissa) (y : ℚ) : Prop :=
  ∃ rest : ℚ, y = em.mantissa + (if em.roundBit then 1 / 2 else 0) + rest ∧
    0 ≤ rest ∧ rest < 1 / 2 ∧ (em.stickyBit = false ↔ rest = 0)

variable {em : ExtendedMantissa} {accuracy : Accuracy}

theorem tracks_exact (m : ℕ) : Tracks (.ofMantissaAndAccuracy m .exact) m :=
  ⟨0, by simp [ExtendedMantissa.ofMantissaAndAccuracy], le_rfl, by norm_num,
    by simp [ExtendedMantissa.ofMantissaAndAccuracy]⟩

theorem tracks_fraction {num den : ℕ} (hlt : num < den) (m : ℕ) :
    Tracks (.ofMantissaAndAccuracy m (accuracyOfFraction num den)) (m + num / den) := by
  have hden : (0 : ℚ) < den := by exact_mod_cast Nat.zero_lt_of_lt hlt
  have hone : (num : ℚ) / den < 1 := (div_lt_one hden).mpr (by exact_mod_cast hlt)
  rw [accuracyOfFraction]
  by_cases hzero : num = 0
  · rw [if_pos hzero, hzero, Nat.cast_zero, zero_div, add_zero]
    exact tracks_exact m
  · have hpos : (0 : ℚ) < num / den :=
      div_pos (by exact_mod_cast Nat.pos_of_ne_zero hzero) hden
    rw [if_neg hzero]
    rcases lt_trichotomy (2 * num) den with hhalf | hhalf | hhalf
    · rw [Nat.compare_eq_lt.mpr hhalf]
      refine ⟨num / den, by simp [ExtendedMantissa.ofMantissaAndAccuracy], hpos.le, ?_, ?_⟩
      · rw [div_lt_div_iff₀ hden two_pos]
        exact_mod_cast (by omega : num * 2 < 1 * den)
      · simpa [ExtendedMantissa.ofMantissaAndAccuracy] using hpos.ne'
    · rw [Nat.compare_eq_eq.mpr hhalf]
      refine ⟨0, ?_, le_rfl, by norm_num, by simp [ExtendedMantissa.ofMantissaAndAccuracy]⟩
      have hfraction : (num : ℚ) / den = 1 / 2 := by
        rw [div_eq_div_iff hden.ne' two_ne_zero]
        exact_mod_cast (by omega : num * 2 = 1 * den)
      simp [ExtendedMantissa.ofMantissaAndAccuracy, hfraction]
    · rw [Nat.compare_eq_gt.mpr hhalf]
      have hfraction : (1 : ℚ) / 2 < num / den := by
        rw [div_lt_div_iff₀ two_pos hden]
        exact_mod_cast (by omega : 1 * den < num * 2)
      refine ⟨num / den - 1 / 2, ?_, by linarith, by linarith, ?_⟩
      · simp [ExtendedMantissa.ofMantissaAndAccuracy]
      · simpa [ExtendedMantissa.ofMantissaAndAccuracy, sub_eq_zero] using hfraction.ne'

theorem Tracks.shiftRightOne (h : Tracks em y) : Tracks em.shiftRightOne (y / 2) := by
  obtain ⟨rest, hy, hnonneg, hlt, hsticky⟩ := h
  have hmantissa : (em.mantissa : ℚ) = 2 * (em.mantissa / 2 : ℕ) + (em.mantissa % 2 : ℕ) := by
    exact_mod_cast (Nat.div_add_mod em.mantissa 2).symm
  refine ⟨(if em.roundBit then 1 / 4 else 0) + rest / 2, ?_, ?_, ?_, ?_⟩
  · rw [hy, hmantissa]
    rcases Nat.mod_two_eq_zero_or_one em.mantissa with hmod | hmod <;>
      cases em.roundBit <;> simp [ExtendedMantissa.shiftRightOne, hmod] <;> ring
  · split <;> linarith
  · split <;> linarith
  · cases hround : em.roundBit with
    | false => simpa [ExtendedMantissa.shiftRightOne, hround] using hsticky
    | true =>
      simp only [ExtendedMantissa.shiftRightOne, hround, Bool.true_or, if_true, Bool.true_eq_false,
        false_iff]
      linarith

theorem Tracks.shiftRight (h : Tracks em y) (k : ℕ) : Tracks (em >>> k) (y / 2 ^ k) := by
  induction k with
  | zero =>
    rw [pow_zero, div_one]
    exact h
  | succ k ih =>
    rw [pow_succ, ← div_div]
    exact ih.shiftRightOne

theorem Tracks.mantissa_le (h : Tracks em y) : em.mantissa ≤ y ∧ y < em.mantissa + 1 := by
  obtain ⟨rest, rfl, hnonneg, hlt, -⟩ := h
  constructor <;> split <;> linarith

/-- Rounding an extended mantissa goes to a nearest whole number. -/
theorem Tracks.rounded_near (h : Tracks em y) : |(em.roundedMantissa : ℚ) - y| ≤ 1 / 2 := by
  obtain ⟨mantissa, roundBit, stickyBit⟩ := em
  obtain ⟨rest, rfl, hnonneg, hlt, hsticky⟩ := h
  rw [abs_le]
  cases roundBit <;> cases stickyBit <;>
    simp only [ExtendedMantissa.roundedMantissa, ExtendedMantissa.accuracy,
      Accuracy.roundToNearestEven, Bool.false_eq_true, if_true, if_false, true_iff]
      at hsticky ⊢
  · constructor <;> linarith
  · constructor <;> linarith
  · rcases Nat.mod_two_eq_zero_or_one mantissa with hmod | hmod <;> rw [hmod] <;> push_cast <;>
      constructor <;> linarith
  · push_cast
    constructor <;> linarith

/-! ## Unpacked floats -/

/-- A float that is zero or has a full mantissa, with the number that it stands for. -/
inductive Represents : UnpackedFloat → ℚ → Prop
  | zero : Represents (.zero .positive) 0
  | finite {mantissa : ℕ} {exponent : ℤ} (hpos : 0 < mantissa) (hmantissa : mantissa.log2 = 52)
      (hexponent : -1074 ≤ exponent) :
      Represents (.finite .positive mantissa exponent hpos) (mantissa * 2 ^ exponent)

variable {x x' : UnpackedFloat}

theorem full_bounds (hm : m.log2 = 52) : 2 ^ 52 ≤ m ∧ m < 2 ^ 53 :=
  (Nat.log2_eq_iff (pos_of_log2 (by omega)).ne').mp hm

theorem lt_unit_log2 (m : ℕ) (e : ℤ) : (m : ℚ) * 2 ^ e < 2 ^ (m.log2 + 1 + e) := by
  rw [show (m.log2 : ℤ) + 1 + e = e + (m.log2 + 1 : ℕ) by push_cast; ring, unit_add]
  exact mul_lt_mul_of_pos_right (by exact_mod_cast Nat.lt_log2_self) (unit_pos e)

theorem rounds_scaled (hlow : 2 ^ 52 ≤ y) (hhigh : y < 2 ^ 53) (hnear : |(n : ℚ) - y| ≤ 1 / 2)
    (e : ℤ) : Rounds (y * 2 ^ e) (n * 2 ^ e) := by
  refine .binade n e ?_ ?_ ?_
  · rw [show e + 52 = e + (52 : ℕ) from rfl, unit_add]
    exact mul_le_mul_of_nonneg_right hlow (unit_pos e).le
  · rw [show e + 53 = e + (53 : ℕ) from rfl, unit_add]
    exact mul_lt_mul_of_pos_right hhigh (unit_pos e)
  · rw [← sub_mul, abs_mul, abs_of_pos (unit_pos e)]
    linarith [mul_le_mul_of_nonneg_right hnear (unit_pos e).le]

theorem nearest_bounds (hlow : 2 ^ 52 ≤ y) (hhigh : y < 2 ^ 53) (hnear : |(n : ℚ) - y| ≤ 1 / 2) :
    2 ^ 52 ≤ n ∧ n ≤ 2 ^ 53 := by
  obtain ⟨hnear, hnear'⟩ := abs_le.mp hnear
  constructor
  · have : (2 : ℚ) ^ 52 < n + 1 := by linarith
    exact Nat.lt_succ_iff.mp (by exact_mod_cast this)
  · have : (n : ℚ) < 2 ^ 53 + 1 := by linarith
    exact Nat.lt_succ_iff.mp (by exact_mod_cast this)

/-- Where rounding up has carried into one more bit, the last bit is zero and can go. -/
theorem carried (hn : 2 ^ 52 ≤ n ∧ n ≤ 2 ^ 53) (e : ℤ) :
    (n : ℚ) * 2 ^ e = ((n / 2 ^ (n.log2 - 52) : ℕ) : ℚ) * 2 ^ (e + (n.log2 - 52 : ℕ)) := by
  have hdvd : 2 ^ (n.log2 - 52) ∣ n := by
    rcases hn.2.eq_or_lt with rfl | hless
    · rw [Nat.log2_two_pow]
      decide
    · have hlog : n.log2 < 53 := (Nat.log2_lt (by omega)).mpr hless
      rw [show n.log2 - 52 = 0 by omega]
      exact one_dvd n
  have hback : ((n / 2 ^ (n.log2 - 52) : ℕ) : ℚ) * 2 ^ (n.log2 - 52) = n := by
    exact_mod_cast Nat.div_mul_cancel hdvd
  rw [unit_add, ← mul_assoc, hback]

/-- Rounding a mantissa that has all its bits, or more. -/
theorem represents_roundWithAccuracy
    (ht : Tracks (ExtendedMantissa.ofMantissaAndAccuracy m accuracy) y) (hm : 52 ≤ m.log2)
    (he : -1074 ≤ m.log2 - 52 + e) :
    ∃ w, Represents (roundWithAccuracy .binary64 .positive m e accuracy) w ∧
      Rounds (y * 2 ^ e) w := by
  have hfirst := ht.shiftRight (m.log2 - 52)
  have hfull : (ExtendedMantissa.ofMantissaAndAccuracy m accuracy >>> (m.log2 - 52)).mantissa.log2
      = 52 := by
    rw [mantissa_shiftRight, mantissa_ofMantissaAndAccuracy, log2_div_pow]
    omega
  have hvalue : y * 2 ^ e = y / 2 ^ (m.log2 - 52) * 2 ^ (e + (m.log2 - 52 : ℕ)) := by
    rw [unit_add, ← mul_assoc, div_mul_cancel₀ _ (by positivity)]
  have hexponent : -1074 ≤ e + (m.log2 - 52 : ℕ) := by omega
  rw [roundWithAccuracy, shiftToTargetExponent_eq hm he, hvalue]
  dsimp only
  generalize ExtendedMantissa.ofMantissaAndAccuracy m accuracy >>> (m.log2 - 52) = em
    at hfirst hfull ⊢
  generalize y / 2 ^ (m.log2 - 52) = z at hfirst ⊢
  generalize e + (m.log2 - 52 : ℕ) = f at hexponent ⊢
  obtain ⟨hlow, hhigh⟩ := full_bounds hfull
  obtain ⟨hle, hlt⟩ := hfirst.mantissa_le
  have hlow' : (2 : ℚ) ^ 52 ≤ z := le_trans (by exact_mod_cast hlow) hle
  have hhigh' : z < 2 ^ 53 := hlt.trans_le (by exact_mod_cast hhigh)
  have hrounds := rounds_scaled hlow' hhigh' hfirst.rounded_near f
  have hbounds := nearest_bounds hlow' hhigh' hfirst.rounded_near
  have hlog : 52 ≤ em.roundedMantissa.log2 := (Nat.le_log2 (by omega)).mpr hbounds.1
  have hfull' : (em.roundedMantissa / 2 ^ (em.roundedMantissa.log2 - 52)).log2 = 52 := by
    rw [log2_div_pow]
    omega
  rw [shiftToTargetExponent_eq hlog (by omega), mantissa_shiftRight,
    mantissa_ofMantissaAndAccuracy, dif_neg (pos_of_log2 (by omega)).ne']
  rw [carried hbounds] at hrounds
  exact ⟨_, .finite _ hfull' (by omega), hrounds⟩

/-! ## Operations -/

theorem exponent_of_bounded (hpos : 0 < m) (h : Bounded 1000 (m * 2 ^ e)) :
    -1001 ≤ m.log2 + e := by
  rcases h with hzero | ⟨hlow, -⟩
  · have := mul_pos (Nat.cast_pos.mpr hpos : (0 : ℚ) < m) (unit_pos e)
    linarith
  · have := lt_of_unit_lt (hlow.trans_lt (lt_unit_log2 m e))
    omega

theorem represents_ofNat (n : ℕ) :
    ∃ w, Represents (UnpackedFloat.ofNat .binary64 n) w ∧ Rounds n w := by
  rcases Nat.eq_zero_or_pos n with rfl | hpos
  · exact ⟨0, .zero, by exact_mod_cast Rounds.zero⟩
  · have hcompare : compare (n : ℤ) 0 = .gt := by
      rw [Int.compare_eq_gt]
      omega
    have hshift : (0 - Format.binary64.targetExponent (totalExponent n 0)).toNat = 52 - n.log2 := by
      rw [targetExponent_eq, totalExponent]
      omega
    have hlog := log2_shiftLeft hpos.ne' (52 - n.log2)
    obtain ⟨w, hw, hrounds⟩ := represents_roundWithAccuracy (e := 0 - (52 - n.log2 : ℕ))
      (tracks_exact (n <<< (52 - n.log2))) (by omega) (by omega)
    refine ⟨w, ?_, ?_⟩
    · rw [UnpackedFloat.ofNat, UnpackedFloat.ofInt, UnpackedFloat.normalize, hcompare]
      dsimp only
      rw [UnpackedFloat.round, decreaseExponent, Int.toNat_natCast, hshift]
      exact hw
    · rw [Nat.shiftLeft_eq, Nat.cast_mul, mul_assoc] at hrounds
      have hone : ((2 ^ (52 - n.log2) : ℕ) : ℚ) * 2 ^ (0 - (52 - n.log2 : ℕ) : ℤ) = 1 := by
        rw [zero_sub, zpow_neg, zpow_natCast, Nat.cast_pow, Nat.cast_ofNat]
        exact mul_inv_cancel₀ (by positivity)
      rwa [hone, mul_one] at hrounds

theorem Represents.mul (hx : Represents x v) (hx' : Represents x' v') (h : Bounded 1000 (v * v')) :
    ∃ w, Represents (x.mul .binary64 x') w ∧ Rounds (v * v') w := by
  cases hx with
  | zero =>
    rw [zero_mul]
    cases hx' <;> exact ⟨0, .zero, .zero⟩
  | @finite m e hpos hm he =>
    cases hx' with
    | zero =>
      rw [mul_zero]
      exact ⟨0, .zero, .zero⟩
    | @finite m' e' hpos' hm' he' =>
      have hvalue : (m : ℚ) * 2 ^ e * (m' * 2 ^ e') = (m * m' : ℕ) * 2 ^ (e + e') := by
        rw [zpow_add₀ (by norm_num)]
        push_cast
        ring
      have hlog : 104 ≤ (m * m').log2 := by
        refine (Nat.le_log2 (Nat.mul_pos hpos hpos').ne').mpr ?_
        calc 2 ^ 104 = 2 ^ 52 * 2 ^ 52 := by norm_num
          _ ≤ m * m' := Nat.mul_le_mul (full_bounds hm).1 (full_bounds hm').1
      rw [hvalue] at h ⊢
      have hexponent := exponent_of_bounded (Nat.mul_pos hpos hpos') h
      exact represents_roundWithAccuracy (tracks_exact (m * m')) (by omega) (by omega)

/-- A quotient of mantissas keeps what division with remainder leaves. -/
theorem quotient_eq (hn : 0 < n) (m : ℕ) (e f : ℤ) :
    (m : ℚ) * (2 : ℚ) ^ e / (n * (2 : ℚ) ^ f) =
      (((m <<< 53 / n : ℕ) : ℚ) + ((m <<< 53 % n : ℕ) : ℚ) / n) * (2 : ℚ) ^ (e - f - 53) := by
  have hdiv : (m : ℚ) * (2 : ℚ) ^ 53 = n * ((m <<< 53 / n : ℕ) : ℚ) + ((m <<< 53 % n : ℕ) : ℚ) := by
    rw [← Nat.cast_mul, ← Nat.cast_add, Nat.div_add_mod, Nat.shiftLeft_eq, Nat.cast_mul,
      Nat.cast_pow, Nat.cast_ofNat]
  have hn' : (n : ℚ) ≠ 0 := Nat.cast_ne_zero.mpr hn.ne'
  have hquotient : ((m <<< 53 / n : ℕ) : ℚ) + ((m <<< 53 % n : ℕ) : ℚ) / n = m * 2 ^ 53 / n := by
    rw [hdiv, add_div, mul_div_cancel_left₀ _ hn']
  rw [hquotient, zpow_sub₀ (by norm_num), zpow_sub₀ (by norm_num)]
  field_simp

theorem quotient_lt (hm : m.log2 = 52) (hn : n.log2 = 52) (e f : ℤ) :
    ((m : ℚ) * 2 ^ e) / (n * 2 ^ f) < 2 ^ (e - f + 1) := by
  obtain ⟨hlow, -⟩ := full_bounds hn
  have hn' : (0 : ℚ) < n := by exact_mod_cast (Nat.two_pow_pos 52).trans_le hlow
  rw [div_lt_iff₀ (mul_pos hn' (unit_pos f))]
  calc (m : ℚ) * 2 ^ e < 2 ^ (m.log2 + 1 + e) := lt_unit_log2 m e
    _ = 2 ^ (e - f + 1) * (2 ^ 52 * 2 ^ f) := by
        rw [hm, ← unit_add, ← zpow_add₀ (by norm_num)]
        congr 1
        push_cast
        ring
    _ ≤ 2 ^ (e - f + 1) * (n * 2 ^ f) := by
        refine mul_le_mul_of_nonneg_left ?_ (unit_pos _).le
        exact mul_le_mul_of_nonneg_right (by exact_mod_cast hlow) (unit_pos f).le

theorem log2_quotient (hm : m.log2 = 52) (hn : n.log2 = 52) : 52 ≤ (m <<< 53 / n).log2 := by
  have hbounds := full_bounds hm
  have hbounds' := full_bounds hn
  have hquotient : 2 ^ 52 ≤ m <<< 53 / n := by
    rw [Nat.le_div_iff_mul_le (by omega), Nat.shiftLeft_eq]
    omega
  exact (Nat.le_log2 (by omega)).mpr hquotient

theorem Represents.div (hx : Represents x v) (hx' : Represents x' v') (hpos : 0 < v')
    (h : Bounded 1000 (v / v')) : ∃ w, Represents (x.div .binary64 x') w ∧ Rounds (v / v') w := by
  cases hx' with
  | zero => exact absurd hpos (lt_irrefl 0)
  | @finite n f hn hn' hf =>
    cases hx with
    | zero =>
      rw [zero_div]
      exact ⟨0, .zero, .zero⟩
    | @finite m e hm hm' he =>
      have hexponent : -1002 ≤ e - f := by
        rcases h with hzero | ⟨hlow, -⟩
        · exact absurd hzero (div_pos (mul_pos (by exact_mod_cast hm) (unit_pos e)) hpos).ne'
        · have := lt_of_unit_lt (hlow.trans_lt (quotient_lt hm' hn' e f))
          omega
      have hshift : min (e - f)
          (Format.binary64.targetExponent (totalExponent m e - totalExponent n f)) =
            e - f - 53 := by
        rw [targetExponent_eq, totalExponent, totalExponent]
        omega
      have hshift' : (e - f - (e - f - 53)).toNat = 53 := by omega
      rw [UnpackedFloat.div, divCore, hshift, hshift', quotient_eq hn]
      exact represents_roundWithAccuracy (tracks_fraction (Nat.mod_lt _ hn) _)
        (log2_quotient hm' hn') (by have := log2_quotient hm' hn'; omega)

theorem Represents.le_iff (hx : Represents x v) (hx' : Represents x' v') :
    x.le x' = true ↔ v ≤ v' := by
  cases hx with
  | zero =>
    cases hx' with
    | zero => exact iff_of_true rfl le_rfl
    | finite hpos => exact iff_of_true rfl (mul_nonneg (Nat.cast_nonneg _) (unit_pos _).le)
  | @finite m e hpos hm he =>
    cases hx' with
    | zero =>
      refine iff_of_false Bool.false_ne_true (not_le.mpr ?_)
      exact mul_pos (by exact_mod_cast hpos) (unit_pos e)
    | @finite n f hpos' hn hf =>
      have hless {m n : ℕ} {e f : ℤ} (hm : m.log2 = 52) (hn : n.log2 = 52) (hlt : e < f) :
          (m : ℚ) * 2 ^ e < n * 2 ^ f := by
        calc (m : ℚ) * 2 ^ e < 2 ^ (m.log2 + 1 + e) := lt_unit_log2 m e
          _ ≤ 2 ^ (f + (52 : ℕ)) := unit_mono (by rw [hm]; push_cast; omega)
          _ = 2 ^ 52 * 2 ^ f := unit_add f 52
          _ ≤ n * 2 ^ f := mul_le_mul_of_nonneg_right (by exact_mod_cast (full_bounds hn).1)
              (unit_pos f).le
      have hle : (UnpackedFloat.finite .positive m e hpos).le (.finite .positive n f hpos') =
          ((compare e f).then (compare m n)).isLE := rfl
      rw [hle]
      rcases lt_trichotomy e f with hef | rfl | hef
      · rw [Int.compare_eq_lt.mpr hef]
        exact iff_of_true rfl (hless hm hn hef).le
      · rw [Int.compare_eq_eq.mpr rfl, Ordering.eq_then, Nat.isLE_compare,
          mul_le_mul_iff_left₀ (unit_pos e), Nat.cast_le]
      · rw [Int.compare_eq_gt.mpr hef]
        exact iff_of_false Bool.false_ne_true (not_le.mpr (hless hn hm hef))

theorem Represents.unique (h : Represents x v) (h' : Represents x v') : v = v' :=
  le_antisymm ((h.le_iff h').mp ((h.le_iff h).mpr le_rfl))
    ((h'.le_iff h).mp ((h.le_iff h).mpr le_rfl))

/-! ## Floats -/

/-- A float that is zero or has a full mantissa stands for a number. -/
abbrev Stands (a : Float) (v : ℚ) : Prop := Represents a.toModel.unpack v

variable {a b : Float}

theorem Represents.unpack_pack (h : Represents x v) (hle : v ≤ 2 ^ (1000 : ℤ)) :
    Represents (Float.Model.pack x).unpack v := by
  rw [Float.Model.pack, Float.Model.unpack, UInt64.toBitVec_ofBitVec]
  cases h with
  | zero => exact .zero
  | @finite m e hpos hm he =>
    have hlow : (2 : ℚ) ^ (e + (52 : ℕ)) ≤ 2 ^ (1000 : ℤ) := by
      rw [unit_add]
      refine le_trans ?_ hle
      exact mul_le_mul_of_nonneg_right (by exact_mod_cast (full_bounds hm).1) (unit_pos e).le
    have hexponent := (zpow_le_zpow_iff_right₀ (by norm_num : (1 : ℚ) < 2)).mp hlow
    rw [unpack_pack_finite hpos hm he (by push_cast at hexponent; omega)]
    exact .finite hpos hm he

theorem Stands.mul (ha : Stands a v) (hb : Stands b v') (h : Bounded 1000 (v * v')) :
    ∃ w, Stands (a * b) w ∧ Rounds (v * v') w := by
  obtain ⟨w, hw, hrounds⟩ := Represents.mul ha hb h
  exact ⟨w, hw.unpack_pack (hrounds.bounded h).le, hrounds⟩

theorem Stands.div (ha : Stands a v) (hb : Stands b v') (hpos : 0 < v') (h : Bounded 1000 (v / v')) :
    ∃ w, Stands (a / b) w ∧ Rounds (v / v') w := by
  obtain ⟨w, hw, hrounds⟩ := Represents.div ha hb hpos h
  exact ⟨w, hw.unpack_pack (hrounds.bounded h).le, hrounds⟩

theorem Stands.le_iff (ha : Stands a v) (hb : Stands b v') : a ≤ b ↔ v ≤ v' := by
  rw [← Represents.le_iff ha hb]
  exact decide_eq_true_iff

/-- A counter of 64 bits is rounded where it becomes a float. -/
theorem stands_counterToFloat (hn : n < 2 ^ 64) :
    ∃ w, Stands (counterToFloat n) w ∧ Rounds n w := by
  obtain ⟨w, hw, hrounds⟩ := represents_ofNat n
  have hword : n.toUInt64.toNat = n := UInt64.toNat_ofNat_of_lt' hn
  refine ⟨w, ?_, hrounds⟩
  change Represents (Float.Model.pack (UnpackedFloat.ofNat .binary64 n.toUInt64.toNat)).unpack w
  rw [hword]
  exact hw.unpack_pack ((hrounds.bounded (bounded_counter hn)).mono (by norm_num)).le

end Binary64

end SystemMetrics
