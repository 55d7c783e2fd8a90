/-!
# Durations

A duration is a whole number of nanoseconds. Its text uses the largest of the units `s`, `ms`, `µs`
and `ns` in which it is at least one, with the fraction that is left over, without trailing zeros.
-/

namespace SystemMetrics

structure Duration where
  nanoseconds : Nat
  deriving DecidableEq, Repr, Inhabited

namespace Duration

def ofSeconds (s : Nat) : Duration := ⟨s * 1000000000⟩

def ofMilliseconds (ms : Nat) : Duration := ⟨ms * 1000000⟩

/-- The seconds as a float: the whole seconds and the fraction are converted on their own. -/
def toSeconds (d : Duration) : Float :=
  (d.nanoseconds / 1000000000).toUInt64.toFloat
    + (d.nanoseconds % 1000000000).toUInt64.toFloat / 1000000000.0

/-- The digits of `part / 10 ^ width` after the point, without trailing zeros. -/
def fractionDigits (width part : Nat) : List Char :=
  let digits := Nat.toDigits 10 part
  let padded := List.replicate (width - digits.length) '0' ++ digits
  (padded.reverse.dropWhile (· == '0')).reverse

/-- The duration in a unit of `10 ^ width` nanoseconds. -/
def textIn (width : Nat) (unit : String) (d : Duration) : String :=
  let whole := toString (d.nanoseconds / Nat.pow 10 width)
  let rest := d.nanoseconds % Nat.pow 10 width
  if rest = 0 then whole ++ unit
  else whole ++ "." ++ String.ofList (fractionDigits width rest) ++ unit

def text (d : Duration) : String :=
  if d.nanoseconds ≥ 1000000000 then d.textIn 9 "s"
  else if d.nanoseconds ≥ 1000000 then d.textIn 6 "ms"
  else if d.nanoseconds ≥ 1000 then d.textIn 3 "µs"
  else d.textIn 0 "ns"

end Duration

end SystemMetrics
