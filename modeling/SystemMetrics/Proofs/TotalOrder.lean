import SystemMetrics.Decimal.Binary
import SystemMetrics.Proofs.Seconds

/-!
# The total order of floats

Without its sign bit a float is a number of 63 bits, which grows with the size of the float. The
total order goes by that number and by the sign. It tells any two floats apart, and puts them in the
order of their values wherever these can be compared.
-/

namespace SystemMetrics.Decimal

open Float.Model Float.Model.UnpackedFloat

/-- The place of a float with a sign whose other bits make the number `n`. -/
def signedRank : Sign → Nat → Int
  | .positive, n => n
  | .negative, n => -1 - n

/-- What is unpacked from a float with a sign whose other bits make the number `n`. -/
inductive Unpacks (s : Sign) : Nat → UnpackedFloat → Prop
  | infinity : Unpacks s (2047 * 2 ^ 52) (.infinity s)
  | notANumber (n : Nat) : Unpacks s n .notANumber
  | zero : Unpacks s 0 (.zero s)
  | finite {n m : Nat} {e : Int} (hpos : 0 < m) (hm : m < 2 ^ 53)
      (he : e = -1074 ∨ -1074 < e ∧ 2 ^ 52 ≤ m) (he' : e ≤ 971)
      (hn : (n : Int) = (e + 1074) * 2 ^ 52 + m) : Unpacks s n (.finite s m e hpos)

variable {s s' : Sign} {n n' : Nat} {u u' : UnpackedFloat} {x y : Float}

/-! ## Unpacking -/

theorem toNat_unpackMantissa (b : BitVec 64) :
    (@unpackMantissa .binary64 b).toNat = b.toNat % 2 ^ 52 := by
  simp [unpackMantissa]

theorem toNat_unpackExponent (b : BitVec 64) :
    (@unpackExponent .binary64 b).toNat = b.toNat / 2 ^ 52 % 2 ^ 11 := by
  simp [unpackExponent, BitVec.extractLsb, Nat.shiftRight_eq_div_pow]

theorem toNat_unpackSign (b : BitVec 64) :
    (@unpackSign .binary64 b).toNat = b.toNat / 2 ^ 63 := by
  have hlt := b.isLt
  simp [unpackSign, BitVec.extractLsb, Nat.shiftRight_eq_div_pow]
  omega

theorem unpacks_unpack (b : BitVec Format.binary64.numBits) :
    Unpacks (.ofBitVec (unpackSign b)) (b.toNat % 2 ^ 63) (UnpackedFloat.unpack .binary64 b) := by
  have hmantissa := toNat_unpackMantissa b
  have hexponent := toNat_unpackExponent b
  have hnumber : b.toNat % 2 ^ 63 =
      (unpackExponent b).toNat * 2 ^ 52 + (unpackMantissa b).toNat := by
    omega
  have hbias : (Format.binary64.exponentBias : Int) = 1023 := rfl
  have hwidth : (Format.binary64.mantissaBitsWithoutImplicit : Int) = 52 := rfl
  rw [UnpackedFloat.unpack, hnumber]
  split
  · rename_i hfull
    split
    · rename_i hm
      rw [hfull, hm]
      exact .infinity
    · exact .notANumber _
  · rename_i hfull
    have hfull : (unpackExponent b).toNat ≠ 2047 := fun h => hfull (BitVec.eq_of_toNat_eq h)
    split
    · rename_i hnone
      have hnone : (unpackExponent b).toNat = 0 := congrArg BitVec.toNat hnone
      split
      · rename_i hm
        rw [hnone, hm]
        exact .zero
      · refine .finite _ (by omega) (.inl ?_) ?_ ?_
        all_goals omega
    · rename_i hnone
      have hnone : (unpackExponent b).toNat ≠ 0 := fun h => hnone (BitVec.eq_of_toNat_eq h)
      have hleading : (1#1 ++ unpackMantissa b).toNat = 2 ^ 52 + (unpackMantissa b).toNat :=
        Binary64.toNat_one_append _
      refine .finite _ ?_ ?_ ?_ ?_
      all_goals omega

theorem totalRank_eq (x : Float) :
    totalRank x = signedRank (.ofBitVec (@unpackSign .binary64 x.toBits.toBitVec))
      (x.toBits.toNat % 2 ^ 63) := by
  have hsign := toNat_unpackSign x.toBits.toBitVec
  have hlt := x.toBits.toBitVec.isLt
  rw [UInt64.toNat_toBitVec] at hsign hlt
  rw [totalRank, signBit, Sign.ofBitVec]
  by_cases hpositive : @unpackSign .binary64 x.toBits.toBitVec = 0#1
  · have hzero : (@unpackSign .binary64 x.toBits.toBitVec).toNat = 0 :=
      congrArg BitVec.toNat hpositive
    rw [if_pos hpositive, if_pos (by omega), signedRank]
    omega
  · have hone : (@unpackSign .binary64 x.toBits.toBitVec).toNat ≠ 0 :=
      fun h => hpositive (BitVec.eq_of_toNat_eq h)
    rw [if_neg hpositive, if_neg (by omega), signedRank]
    omega

/-! ## Order -/

theorem compare_lt_of_then {e e' : Int} {m m' : Nat}
    (h : (compare e e').then (compare m m') = .lt) : e < e' ∨ e = e' ∧ m < m' := by
  rcases Ordering.then_eq_lt.mp h with h | ⟨h, h'⟩
  · exact .inl (compare_lt_iff_lt.mp h)
  · exact .inr ⟨compare_eq_iff_eq.mp h, compare_lt_iff_lt.mp h'⟩

/-- Of two mantissas with exponents the one that comes first makes the smaller number. -/
theorem number_lt {m m' : Nat} {e e' : Int} (hm : m < 2 ^ 53)
    (he : e' = -1074 ∨ -1074 < e' ∧ 2 ^ 52 ≤ m') (hleast : -1074 ≤ e)
    (hn : (n : Int) = (e + 1074) * 2 ^ 52 + m) (hn' : (n' : Int) = (e' + 1074) * 2 ^ 52 + m')
    (h : (compare e e').then (compare m m') = .lt) : n < n' := by
  rcases compare_lt_of_then h with hlt | ⟨rfl, hlt⟩
  · omega
  · omega

theorem Unpacks.lt_of_positive (h : Unpacks .positive n u) (h' : Unpacks .positive n' u')
    (hlt : u.compare u' = some .lt) : n < n' := by
  cases h with
  | infinity => cases h' <;> nomatch hlt
  | notANumber => nomatch hlt
  | zero =>
    cases h' with
    | infinity => omega
    | notANumber => nomatch hlt
    | zero => nomatch hlt
    | finite => omega
  | finite hpos hm he hmax hn =>
    cases h' with
    | infinity => omega
    | notANumber => nomatch hlt
    | zero => nomatch hlt
    | finite hpos' hm' he' hmax' hn' =>
      exact number_lt hm he' (by omega) hn hn' (Option.some.inj hlt)

theorem Unpacks.lt_of_negative (h : Unpacks .negative n u) (h' : Unpacks .negative n' u')
    (hlt : u.compare u' = some .lt) : n' < n := by
  cases h with
  | infinity =>
    cases h' with
    | infinity => nomatch hlt
    | notANumber => nomatch hlt
    | zero => omega
    | finite => omega
  | notANumber => nomatch hlt
  | zero => cases h' <;> nomatch hlt
  | finite hpos hm he hmax hn =>
    cases h' with
    | infinity => nomatch hlt
    | notANumber => nomatch hlt
    | zero => omega
    | finite hpos' hm' he' hmax' hn' =>
      have hswap : ((compare _ _).then (compare _ _)).swap = Ordering.lt := Option.some.inj hlt
      rw [Ordering.swap_then, ← Std.OrientedOrd.eq_swap, ← Std.OrientedOrd.eq_swap] at hswap
      exact number_lt hm' he (by omega) hn' hn hswap

theorem Unpacks.rank_lt (h : Unpacks s n u) (h' : Unpacks s' n' u')
    (hlt : u.compare u' = some .lt) : signedRank s n < signedRank s' n' := by
  cases s with
  | positive =>
    cases s' with
    | positive => exact Int.ofNat_lt.mpr (h.lt_of_positive h' hlt)
    | negative => cases h <;> cases h' <;> nomatch hlt
  | negative =>
    cases s' with
    | positive => simp only [signedRank]; omega
    | negative =>
      have hlt := h.lt_of_negative h' hlt
      simp only [signedRank]
      omega

/-- A larger number comes later in the total order. -/
theorem totalRank_lt_of_lt (h : x < y) : totalRank x < totalRank y := by
  rw [totalRank_eq, totalRank_eq]
  have hcompare : x.toModel.unpack.compare y.toModel.unpack = some .lt :=
    eq_of_beq (of_decide_eq_true h)
  exact (unpacks_unpack x.toBits.toBitVec).rank_lt (unpacks_unpack y.toBits.toBitVec) hcompare

/-- No two floats share a place. -/
theorem totalRank_inj (h : totalRank x = totalRank y) : x = y := by
  have hbits : x.toBits = y.toBits := by
    have hx := x.toBits.toNat_lt
    have hy := y.toBits.toNat_lt
    simp only [totalRank, signBit] at h
    refine UInt64.toNat_inj.mp ?_
    split_ifs at h <;> omega
  obtain ⟨⟨bits, hvalid⟩⟩ := x
  obtain ⟨⟨bits', hvalid'⟩⟩ := y
  cases hbits
  rfl

end SystemMetrics.Decimal
