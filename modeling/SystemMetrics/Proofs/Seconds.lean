import Mathlib
import SystemMetrics.Duration

/-!
# Seconds as a float

An operation on floats unpacks its operands, computes on the unpacked numbers, rounds and packs the
result. The numbers on the way from a duration to its seconds are either zero or so large that their
mantissa is full, and rounding such a number keeps it large. So the seconds of a duration are zero
only if the duration is.
-/

namespace SystemMetrics

namespace Binary64

open Float.Model Float.Model.UnpackedFloat

/-- A positive number with a full mantissa and an exponent that is not below a bound, or one that is
too large for its format. -/
inductive Normal (least : Int) : UnpackedFloat → Prop
  | infinity : Normal least (.infinity .positive)
  | finite {mantissa : Nat} {exponent : Int} (hpos : 0 < mantissa) (hmantissa : mantissa.log2 = 52)
      (hexponent : least ≤ exponent) : Normal least (.finite .positive mantissa exponent hpos)

variable {least : Int} {m : Nat} {e : Int} {x y : UnpackedFloat} {accuracy : Accuracy} {a : Float}

theorem Normal.mono {least' : Int} (h : Normal least x) (hle : least' ≤ least) :
    Normal least' x := by
  cases h with
  | infinity => exact .infinity
  | finite hpos hmantissa hexponent => exact .finite hpos hmantissa (hle.trans hexponent)

/-! ## Binary logarithms -/

theorem log2_mono {m n : Nat} (h : m ≤ n) : m.log2 ≤ n.log2 := by
  rw [Nat.log2_eq_log_two, Nat.log2_eq_log_two]
  exact Nat.log_mono_right h

theorem log2_div_pow (m k : Nat) : (m / 2 ^ k).log2 = m.log2 - k := by
  rw [Nat.log2_eq_log_two, Nat.log2_eq_log_two, Nat.log_div_base_pow]

theorem log2_shiftLeft (hm : m ≠ 0) (k : Nat) : (m <<< k).log2 = m.log2 + k := by
  induction k with
  | zero => rfl
  | succ k ih =>
    rw [Nat.shiftLeft_succ, Nat.log2_two_mul (by simpa [Nat.shiftLeft_eq_zero_iff] using hm), ih]
    rfl

theorem pos_of_log2 (h : 0 < m.log2) : 0 < m := by
  refine Nat.pos_of_ne_zero ?_
  rintro rfl
  simp at h

/-! ## Rounding -/

theorem mantissa_shiftRight (em : ExtendedMantissa) (k : Nat) :
    (em >>> k).mantissa = em.mantissa / 2 ^ k := by
  induction k with
  | zero => exact (Nat.div_one _).symm
  | succ k ih =>
    calc (em >>> (k + 1)).mantissa = (em >>> k).mantissa / 2 := rfl
      _ = em.mantissa / 2 ^ (k + 1) := by rw [ih, Nat.div_div_eq_div_mul, Nat.pow_succ]

theorem mantissa_ofMantissaAndAccuracy (m : Nat) (accuracy : Accuracy) :
    (ExtendedMantissa.ofMantissaAndAccuracy m accuracy).mantissa = m := by
  cases accuracy with
  | exact => rfl
  | inexact ordering => cases ordering <;> rfl

theorem le_roundedMantissa (em : ExtendedMantissa) : em.mantissa ≤ em.roundedMantissa := by
  obtain ⟨mantissa, roundBit, stickyBit⟩ := em
  cases roundBit <;> cases stickyBit <;>
    simp [ExtendedMantissa.roundedMantissa, ExtendedMantissa.accuracy, Accuracy.roundToNearestEven]

theorem targetExponent_eq (total : Int) :
    Format.binary64.targetExponent total = max (total - 53) (-1074) := rfl

/-- A mantissa that has all its bits, or more, loses those that it has too many. -/
theorem shiftToTargetExponent_eq (hm : 52 ≤ m.log2) (he : -1074 ≤ m.log2 - 52 + e)
    (accuracy : Accuracy) :
    shiftToTargetExponent .binary64 m e accuracy =
      (ExtendedMantissa.ofMantissaAndAccuracy m accuracy >>> (m.log2 - 52),
        e + (m.log2 - 52 : Nat)) := by
  have hshift : (Format.binary64.targetExponent (totalExponent m e) - e).toNat = m.log2 - 52 := by
    rw [targetExponent_eq, totalExponent]
    omega
  rw [shiftToTargetExponent, shiftToExponent, hshift]

theorem shiftToTargetExponent_full (hm : 52 ≤ m.log2) (he : -1074 ≤ m.log2 - 52 + e)
    (accuracy : Accuracy) :
    (shiftToTargetExponent .binary64 m e accuracy).1.mantissa.log2 = 52 ∧
      (shiftToTargetExponent .binary64 m e accuracy).2 = m.log2 - 52 + e := by
  rw [shiftToTargetExponent_eq hm he]
  constructor
  · rw [mantissa_shiftRight, mantissa_ofMantissaAndAccuracy, log2_div_pow]
    omega
  · dsimp only
    omega

theorem normal_roundWithAccuracy (hleast : -1074 ≤ least) (hm : 52 ≤ m.log2)
    (he : least ≤ m.log2 - 52 + e) :
    Normal least (roundWithAccuracy .binary64 .positive m e accuracy) := by
  obtain ⟨hmantissa, hexponent⟩ := shiftToTargetExponent_full hm (hleast.trans he) accuracy
  rw [roundWithAccuracy]
  generalize shiftToTargetExponent .binary64 m e accuracy = first at hmantissa hexponent
  obtain ⟨em, exponent⟩ := first
  dsimp only at hmantissa hexponent ⊢
  -- Rounding up can carry into one more bit, so the mantissa is shifted once more.
  have hrounded : 52 ≤ em.roundedMantissa.log2 := hmantissa ▸ log2_mono (le_roundedMantissa em)
  have hstill : -1074 ≤ (em.roundedMantissa.log2 : Int) - 52 + exponent := by omega
  obtain ⟨hmantissa', hexponent'⟩ := shiftToTargetExponent_full hrounded hstill .exact
  rw [dif_neg (pos_of_log2 (by omega)).ne']
  exact .finite _ hmantissa' (by omega)

theorem normal_round (hleast : -1074 ≤ least) (hm : m ≠ 0) (he : least ≤ m.log2 - 52 + e) :
    Normal least (UnpackedFloat.round .binary64 .positive m e) := by
  have hlog := log2_shiftLeft hm (e - Format.binary64.targetExponent (totalExponent m e)).toNat
  rw [UnpackedFloat.round, decreaseExponent]
  rw [targetExponent_eq, totalExponent] at hlog ⊢
  exact normal_roundWithAccuracy hleast (by omega) (by omega)

theorem normal_normalize (hleast : -1074 ≤ least) (hm : 0 < m) (he : least ≤ m.log2 - 52 + e)
    (sign : Sign) : Normal least (UnpackedFloat.normalize .binary64 m e sign) := by
  have hcompare : compare (m : Int) 0 = .gt := by
    rw [Int.compare_eq_gt]
    omega
  rw [UnpackedFloat.normalize, hcompare]
  exact normal_round hleast hm.ne' he

/-! ## Operations -/

theorem normal_ofNat {n : Nat} (hn : 0 < n) : Normal (-52) (UnpackedFloat.ofNat .binary64 n) :=
  normal_normalize (by decide) hn (by omega) .positive

theorem Normal.zero_add (hx : Normal least x) :
    Normal least (UnpackedFloat.add .binary64 (.zero .positive) x) := by
  cases hx with
  | infinity => exact .infinity
  | finite hpos hm he => exact .finite hpos hm he

theorem Normal.add_zero (hx : Normal least x) :
    Normal least (x.add .binary64 (.zero .positive)) := by
  cases hx with
  | infinity => exact .infinity
  | finite hpos hm he => exact .finite hpos hm he

theorem Normal.add (hleast : -1074 ≤ least) (hx : Normal least x) (hy : Normal least y) :
    Normal least (x.add .binary64 y) := by
  cases hx with
  | infinity => cases hy <;> exact .infinity
  | @finite m e hpos hm he =>
    cases hy with
    | infinity => exact .infinity
    | @finite m' e' hpos' hm' he' =>
      have hlog := log2_shiftLeft hpos.ne' (e - min e e').toNat
      have hlog' := log2_shiftLeft hpos'.ne' (e' - min e e').toNat
      have hsum := log2_mono (Nat.le_add_right (m <<< (e - min e e').toNat)
        (m' <<< (e' - min e e').toNat))
      have hsum' := log2_mono (Nat.le_add_left (m' <<< (e' - min e e').toNat)
        (m <<< (e - min e e').toNat))
      exact normal_normalize hleast (pos_of_log2 (by omega)) (by omega) .positive

/-- The divisor has an exponent of `f`. -/
theorem Normal.div {bound f : Int} {n : Nat} (hbound : -1074 ≤ bound) (hx : Normal least x)
    (hpos : 0 < n) (hn : n.log2 = 52) (hleast : bound + f + 53 ≤ least) :
    Normal bound (x.div .binary64 (.finite .positive n f hpos)) := by
  cases hx with
  | infinity => exact .infinity
  | @finite m e hpos' hm he =>
    have hshift : min (e - f)
        (Format.binary64.targetExponent (totalExponent m e - totalExponent n f)) = e - f - 53 := by
      rw [targetExponent_eq, totalExponent, totalExponent]
      omega
    have hshift' : (e - f - (e - f - 53)).toNat = 53 := by omega
    have hquotient : 2 ^ 52 ≤ m <<< 53 / n := by
      have hm' := (Nat.log2_eq_iff hpos'.ne').mp hm
      have hn' := (Nat.log2_eq_iff hpos.ne').mp hn
      rw [Nat.le_div_iff_mul_le hpos, Nat.shiftLeft_eq]
      omega
    have hquotient' : 52 ≤ (m <<< 53 / n).log2 := (Nat.le_log2 (by omega)).mpr hquotient
    rw [UnpackedFloat.div, divCore, hshift, hshift']
    exact normal_roundWithAccuracy hbound hquotient' (by omega)

/-! ## Packing -/

theorem biasedExponent_eq (e : Int) :
    (e + Format.binary64.exponentBias + Format.binary64.mantissaBitsWithoutImplicit).toNat =
      (e + 1075).toNat := by
  change (e + (1023 : Nat) + (52 : Nat)).toNat = (e + 1075).toNat
  omega

theorem pack_finite (hpos : 0 < m) (hm : m.log2 = 52) (he : e ≤ 971) :
    UnpackedFloat.pack .binary64 (.finite .positive m e hpos) =
      packComponents .binary64 .positive (BitVec.ofNat 11 (e + 1075).toNat)
        (BitVec.ofNat 52 m) := by
  have hfits : ¬ 2 ^ Format.binary64.exponentBits ≤ (e + 1075).toNat + 1 := by
    change ¬ 2 ^ 11 ≤ (e + 1075).toNat + 1
    omega
  rw [UnpackedFloat.pack, biasedExponent_eq]
  exact (if_neg hfits).trans (if_pos (by rw [hm]; rfl))

theorem pack_overflow (hpos : 0 < m) (he : 971 < e) :
    UnpackedFloat.pack .binary64 (.finite .positive m e hpos) =
      packedInfinity .binary64 .positive := by
  have hoverflow : 2 ^ Format.binary64.exponentBits ≤ (e + 1075).toNat + 1 := by
    change 2 ^ 11 ≤ (e + 1075).toNat + 1
    omega
  rw [UnpackedFloat.pack, biasedExponent_eq]
  exact if_pos hoverflow

theorem toNat_one_append {w : Nat} (v : BitVec w) : (1#1 ++ v).toNat = 2 ^ w + v.toNat := by
  rw [BitVec.toNat_append, ← Nat.shiftLeft_add_eq_or_of_lt v.isLt]
  simp [Nat.shiftLeft_eq]

theorem unpack_pack_finite (hpos : 0 < m) (hm : m.log2 = 52) (he : -1074 ≤ e) (he' : e ≤ 971) :
    UnpackedFloat.unpack .binary64 (UnpackedFloat.pack .binary64 (.finite .positive m e hpos)) =
      .finite .positive m e hpos := by
  have hbounds := (Nat.log2_eq_iff hpos.ne').mp hm
  have hexponent : (BitVec.ofNat 11 (e + 1075).toNat).toNat = (e + 1075).toNat := by
    rw [BitVec.toNat_ofNat, Nat.mod_eq_of_lt (by omega)]
  have hmantissa : (1#1 ++ BitVec.ofNat 52 m).toNat = m := by
    rw [toNat_one_append, BitVec.toNat_ofNat]
    omega
  have hinfinite : BitVec.ofNat 11 (e + 1075).toNat ≠ -1#11 := by
    intro heq
    rw [heq, show (-1#11).toNat = 2047 from rfl] at hexponent
    omega
  have hsubnormal : BitVec.ofNat 11 (e + 1075).toNat ≠ 0#11 := by
    intro heq
    rw [heq, show (0#11).toNat = 0 from rfl] at hexponent
    omega
  rw [pack_finite hpos hm he', UnpackedFloat.unpack]
  simp only [unpackMantissa_packComponents, unpackExponent_packComponents,
    unpackSign_packComponents]
  rw [if_neg hinfinite, if_neg hsubnormal]
  simp only [hmantissa, hexponent, Sign.ofBitVec_toBitVec]
  congr 1
  change ((e + 1075).toNat : Int) - ((1023 : Nat) + (52 : Nat)) = e
  omega

theorem Normal.unpack_pack (hleast : -1074 ≤ least) (hx : Normal least x) :
    Normal least (Float.Model.pack x).unpack := by
  rw [Float.Model.pack, Float.Model.unpack, UInt64.toBitVec_ofBitVec]
  cases hx with
  | infinity => exact .infinity
  | @finite m e hpos hm he =>
    rcases le_or_gt e 971 with he' | he'
    · rw [unpack_pack_finite hpos hm (hleast.trans he) he']
      exact .finite hpos hm he
    · rw [pack_overflow hpos he']
      exact .infinity

/-! ## Floats -/

theorem unpack_zero : (0.0 : Float).toModel.unpack = .zero .positive := rfl

theorem normal_toFloat {n : UInt64} (hn : 0 < n.toNat) : Normal (-52) n.toFloat.toModel.unpack :=
  (normal_ofNat hn).unpack_pack (by decide)

theorem Normal.not_le_zero (h : Normal least a.toModel.unpack) : ¬ a ≤ 0.0 := by
  intro hle
  have hle' : a.toModel.unpack.le (0.0 : Float).toModel.unpack = true := of_decide_eq_true hle
  rw [unpack_zero] at hle'
  generalize a.toModel.unpack = x at h hle'
  cases h <;> exact Bool.false_ne_true hle'

theorem Normal.zero_div (h : Normal least a.toModel.unpack) : 0.0 / a = 0.0 := by
  have hdiv : (0.0 : Float).toModel.unpack.div .binary64 a.toModel.unpack = .zero .positive := by
    rw [unpack_zero]
    generalize a.toModel.unpack = x at h
    cases h <;> rfl
  change Float.ofModel (Float.Model.pack
    ((0.0 : Float).toModel.unpack.div .binary64 a.toModel.unpack)) = 0.0
  rw [hdiv]
  rfl

end Binary64

namespace Duration

open Binary64

variable {d : Duration}

theorem normal_seconds (hrange : d.nanoseconds < 2 ^ 64 * 10 ^ 9)
    (hpos : 0 < d.nanoseconds / 1000000000) :
    Normal (-52) (d.nanoseconds / 1000000000).toUInt64.toFloat.toModel.unpack := by
  have hfits : d.nanoseconds / 1000000000 < UInt64.size := by
    change d.nanoseconds / 1000000000 < 2 ^ 64
    omega
  exact normal_toFloat ((UInt64.toNat_ofNat_of_lt' hfits).symm ▸ hpos)

theorem normal_fraction (hpos : 0 < d.nanoseconds % 1000000000) :
    Normal (-82)
      ((d.nanoseconds % 1000000000).toUInt64.toFloat / 1000000000.0).toModel.unpack := by
  have hfits : d.nanoseconds % 1000000000 < UInt64.size := by
    change d.nanoseconds % 1000000000 < 2 ^ 64
    omega
  have hfraction := normal_toFloat ((UInt64.toNat_ofNat_of_lt' hfits).symm ▸ hpos)
  have hbillion : (1000000000.0 : Float).toModel.unpack =
      .finite .positive (1000000000 * 2 ^ 23) (-23) (by decide) := rfl
  refine Normal.unpack_pack (by decide) ?_
  rw [hbillion]
  exact hfraction.div (by decide) _ (by decide) (by decide)

/-- The seconds of a duration that is not zero are far from where rounding would lose them. -/
theorem normal_toSeconds (hrange : d.nanoseconds < 2 ^ 64 * 10 ^ 9) (hpos : 0 < d.nanoseconds) :
    Normal (-82) d.toSeconds.toModel.unpack := by
  have hnothing : (0 : Nat).toUInt64.toFloat.toModel.unpack = .zero .positive := rfl
  have hnothing' : ((0 : Nat).toUInt64.toFloat / 1000000000.0).toModel.unpack = .zero .positive :=
    rfl
  rw [toSeconds]
  refine Normal.unpack_pack (by decide) ?_
  rcases Nat.eq_zero_or_pos (d.nanoseconds % 1000000000) with hfraction | hfraction
  · have hseconds : 0 < d.nanoseconds / 1000000000 := by omega
    rw [hfraction, hnothing']
    exact ((normal_seconds hrange hseconds).mono (by decide)).add_zero
  · rcases Nat.eq_zero_or_pos (d.nanoseconds / 1000000000) with hseconds | hseconds
    · rw [hseconds, hnothing]
      exact (normal_fraction hfraction).zero_add
    · exact ((normal_seconds hrange hseconds).mono (by decide)).add (by decide)
        (normal_fraction hfraction)

/-- Only a duration of zero has no seconds, if its whole seconds fit in 64 bits. -/
theorem toSeconds_le_zero_iff (hrange : d.nanoseconds < 2 ^ 64 * 10 ^ 9) :
    d.toSeconds ≤ 0.0 ↔ d.nanoseconds = 0 := by
  constructor
  · intro hle
    by_contra hpos
    exact (normal_toSeconds hrange (Nat.pos_of_ne_zero hpos)).not_le_zero hle
  · intro hzero
    rw [toSeconds, hzero]
    decide

theorem zero_div_toSeconds (hrange : d.nanoseconds < 2 ^ 64 * 10 ^ 9) (hpos : 0 < d.nanoseconds) :
    0.0 / d.toSeconds = 0.0 :=
  (normal_toSeconds hrange hpos).zero_div

end Duration

end SystemMetrics
