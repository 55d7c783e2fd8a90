/-!
# The exact value of a float

A finite float is a whole number times a power of two, both read off its bits.
-/

namespace SystemMetrics.Decimal

/-- The parts of a binary floating-point number. -/
inductive Binary where
  | notANumber
  | infinite (negative : Bool)
  /-- The number `significand * 2 ^ exponent`, negated if `negative`. -/
  | finite (negative : Bool) (significand : Nat) (exponent : Int)
  deriving DecidableEq, Repr

/-- The bit that holds the sign, as a number. -/
def signBit : Nat := 0x8000000000000000

/-- The leading bit of a significand, which is not stored, as a number. -/
def hiddenBit : Nat := 0x10000000000000

def Binary.ofFloat (x : Float) : Binary :=
  let bits : Nat := x.toBits.toNat
  let negative := bits ≥ signBit
  let exponentField : Nat := bits / hiddenBit % 0x800
  let fraction : Nat := bits % hiddenBit
  if exponentField = 2047 then
    if fraction = 0 then .infinite negative else .notANumber
  else if exponentField = 0 then .finite negative fraction (-1074)
  else .finite negative (fraction + hiddenBit) ((exponentField : Int) - 1075)

/-- The place of a float in the total order of its bits: like the numbers on numbers, with `-0`
below `0` and the values that are not numbers at the two ends. -/
def totalRank (x : Float) : Int :=
  let bits : Nat := x.toBits.toNat
  if bits < signBit then (bits : Int) else (signBit : Int) - 1 - bits

end SystemMetrics.Decimal
