/-!
# Numerals

A numeral is a non-empty run of the digits `0` to `9` after an optional sign: `+` always, `-` only
where negative numbers are read. Leading zeros are allowed. A numeral whose value does not fit the
wanted range is not read at all.
-/

namespace SystemMetrics.Text

/-- The number of values of an unsigned 32-bit word. -/
def word32 : Nat := 0x100000000

/-- The number of values of an unsigned 64-bit word. -/
def word64 : Nat := 0x10000000000000000

def digit? (c : Char) : Option Nat :=
  if '0' ≤ c ∧ c ≤ '9' then some (c.toNat - '0'.toNat) else none

/-- The value of a run of digits read after digits worth `value`, as long as it stays below
`bound`. -/
def digitsValue? (bound value : Nat) : List Char → Option Nat
  | [] => some value
  | c :: cs => match digit? c with
    | none => none
    | some d =>
      let next := 10 * value + d
      if next < bound then digitsValue? bound next cs else none

/-- The value of a non-empty run of digits, if it is below `bound`. -/
def digits? (bound : Nat) : List Char → Option Nat
  | [] => none
  | cs => digitsValue? bound 0 cs

/-- Reads a natural number below `bound`. -/
def natural? (bound : Nat) : List Char → Option Nat
  | '+' :: rest => digits? bound rest
  | cs => digits? bound cs

/-- Reads an integer from `-half` up to but not including `half`. -/
def integer? (half : Nat) : List Char → Option Int
  | '-' :: rest => (digits? (half + 1) rest).map fun n => -(n : Int)
  | '+' :: rest => (digits? half rest).map fun n => (n : Int)
  | cs => (digits? half cs).map fun n => (n : Int)

/-- Reads an unsigned 64-bit number. -/
def natural64? (cs : List Char) : Option Nat := natural? word64 cs

/-- Reads a signed 64-bit number. -/
def integer64? (cs : List Char) : Option Int := integer? (word64 / 2) cs

end SystemMetrics.Text
