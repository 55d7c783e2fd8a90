import SystemMetrics.Decimal.Binary

/-!
# Fixed-point text

A float with a fixed number of digits after the point. The exact value is rounded to the nearest
decimal; of two equally near ones the one with the even last digit is taken.
-/

namespace SystemMetrics.Decimal

/-- `num / den` rounded to the nearest whole number, a tie to the even one. -/
def roundDiv (num den : Nat) : Nat :=
  let q := num / den
  let r := num % den
  if 2 * r < den then q
  else if 2 * r > den then q + 1
  else if q % 2 = 0 then q else q + 1

/-- The rounded quotient is not more than half a unit too small. -/
theorem le_roundDiv (num : Nat) {den : Nat} (h : 0 < den) :
    2 * num ≤ 2 * (roundDiv num den * den) + den := by
  have hq := Nat.div_add_mod' num den
  have hr := Nat.mod_lt num h
  simp only [roundDiv]
  split
  · omega
  · split
    · rw [Nat.add_mul]; omega
    · split
      · omega
      · rw [Nat.add_mul]; omega

/-- The rounded quotient is not more than half a unit too large. -/
theorem roundDiv_le (num den : Nat) : 2 * (roundDiv num den * den) ≤ 2 * num + den := by
  have hq := Nat.div_add_mod' num den
  simp only [roundDiv]
  split
  · omega
  · split
    · rw [Nat.add_mul]; omega
    · split
      · omega
      · rw [Nat.add_mul]; omega

/-- `n / 10 ^ places` with exactly `places` digits after the point. -/
def placePoint (places n : Nat) : String :=
  let digits := Nat.toDigits 10 n
  let all := List.replicate (places + 1 - digits.length) '0' ++ digits
  let whole := all.take (all.length - places)
  if places = 0 then String.ofList whole
  else String.ofList (whole ++ '.' :: all.drop (all.length - places))

def fixed (places : Nat) (x : Float) : String :=
  match Binary.ofFloat x with
  | .notANumber => "NaN"
  | .infinite negative => if negative then "-inf" else "inf"
  | .finite negative m e =>
    let scaled := m * Nat.pow 10 places
    let n := if e ≥ 0 then scaled * Nat.pow 2 e.toNat
      else roundDiv scaled (Nat.pow 2 (-e).toNat)
    (if negative then "-" else "") ++ placePoint places n

end SystemMetrics.Decimal
