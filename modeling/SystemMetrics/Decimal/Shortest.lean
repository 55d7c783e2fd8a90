import SystemMetrics.Decimal.Binary

/-!
# Shortest decimal text

The fewest decimal digits that read back as the same float. A finite float is rounded to by every
real in an interval around it, whose ends belong to it if the significand is even. For 1, 2, …
digits the two neighbours of the value on that decimal grid are tested; on the first grid with a hit
the nearer one is taken.
-/

namespace SystemMetrics.Decimal

/-- A positive fraction. -/
structure Ratio where
  num : Nat
  den : Nat

def Ratio.ofBinary (significand : Nat) (exponent : Int) : Ratio :=
  if exponent ≥ 0 then ⟨significand * Nat.pow 2 exponent.toNat, 1⟩
  else ⟨significand, Nat.pow 2 (-exponent).toNat⟩

def Ratio.le (a b : Ratio) : Bool := a.num * b.den ≤ b.num * a.den

def Ratio.lt (a b : Ratio) : Bool := a.num * b.den < b.num * a.den

/-- The reals that round to `m * 2 ^ e`. -/
structure Rounding where
  low : Ratio
  high : Ratio
  closed : Bool

def Rounding.ofBinary (m : Nat) (e : Int) : Rounding :=
  let low := if m = hiddenBit ∧ e > -1074 then Ratio.ofBinary (4 * m - 1) (e - 2)
    else Ratio.ofBinary (2 * m - 1) (e - 1)
  ⟨low, Ratio.ofBinary (2 * m + 1) (e - 1), m % 2 == 0⟩

def Rounding.holds (r : Rounding) (x : Ratio) : Bool :=
  if r.closed then r.low.le x && x.le r.high else r.low.lt x && x.lt r.high

/-- The number `digits * 10 ^ scale`. -/
structure Scaled where
  digits : Nat
  scale : Int
  deriving DecidableEq, Repr

def Scaled.ratio (s : Scaled) : Ratio :=
  if s.scale ≥ 0 then ⟨s.digits * Nat.pow 10 s.scale.toNat, 1⟩
  else ⟨s.digits, Nat.pow 10 (-s.scale).toNat⟩

/-- How many digits the whole part has; for a number below one, how many places it lies below the
point, negated. -/
def magnitude (x : Ratio) : Int :=
  if x.num ≥ x.den then (Nat.toDigits 10 (x.num / x.den)).length
  else 1 - (Nat.toDigits 10 (x.den / x.num)).length

/-- The neighbours of `x` on the grid of the multiples of `10 ^ scale`. -/
def neighbours (x : Ratio) (scale : Int) : Scaled × Scaled :=
  let below := if scale ≥ 0 then x.num / (x.den * Nat.pow 10 scale.toNat)
    else x.num * Nat.pow 10 (-scale).toNat / x.den
  (⟨below, scale⟩, ⟨below + 1, scale⟩)

/-- Whether `a` below `x` is at least as near to it as `b` above. -/
def nearerBelow (x : Ratio) (a b : Scaled) : Bool :=
  -- `x - a ≤ b - x`, that is `2 * x ≤ a + b`, where the sum is a point of the grid
  Ratio.le ⟨2 * x.num, x.den⟩ (Scaled.ratio ⟨a.digits + b.digits, a.scale⟩)

/-- A point of one grid that reads back, the nearer one if both neighbours do. -/
def hit? (x : Ratio) (r : Rounding) (scale : Int) : Option Scaled :=
  let (a, b) := neighbours x scale
  match a.digits != 0 && r.holds a.ratio, r.holds b.ratio with
  | true, true => some (if nearerBelow x a b then a else b)
  | true, false => some a
  | false, true => some b
  | false, false => none

/-- The first grid with a hit, from `count` digits on; seventeen digits always suffice. -/
def search (x : Ratio) (r : Rounding) (top : Int) : (left count : Nat) → Scaled
  | 0, count => (neighbours x (top - count)).1
  | left + 1, count => match hit? x r (top - count) with
    | some s => s
    | none => search x r top left (count + 1)

/-- The shortest decimal of the positive number `m * 2 ^ e`. -/
def shortest (m : Nat) (e : Int) : Scaled :=
  let x := Ratio.ofBinary m e
  search x (Rounding.ofBinary m e) (magnitude x) 18 0

/-- A shortest decimal without zeros at its end. -/
def Scaled.normal (s : Scaled) : List Char × Int :=
  let digits := Nat.toDigits 10 s.digits
  let kept := (digits.reverse.dropWhile (· == '0')).reverse
  (kept, s.scale + (digits.length - kept.length : Nat))

/-- The text of a number given by digits and a power of ten. It is positional from `1e-5` up to but
not including `1e16`, always with a point; otherwise it has an exponent. -/
def numberText (digits : List Char) (scale : Int) : List Char :=
  let point := digits.length + scale
  if 0 ≤ scale ∧ point ≤ 16 then digits ++ List.replicate scale.toNat '0' ++ ['.', '0']
  else if 0 < point ∧ point ≤ 16 then digits.take point.toNat ++ '.' :: digits.drop point.toNat
  else if -5 < point ∧ point ≤ 0 then
    ['0', '.'] ++ List.replicate (-point).toNat '0' ++ digits
  else
    let exponent := (toString (point - 1)).toList
    match digits with
    | [d] => d :: 'e' :: exponent
    | d :: rest => d :: '.' :: rest ++ 'e' :: exponent
    | [] => []

/-- A float as a JSON number; a value that is no finite number is `null`. -/
def jsonNumber (x : Float) : String :=
  match Binary.ofFloat x with
  | .notANumber => "null"
  | .infinite _ => "null"
  | .finite negative m e =>
    let digits := if m = 0 then ['0', '.', '0'] else
      let (digits, scale) := (shortest m e).normal
      numberText digits scale
    String.ofList (if negative then '-' :: digits else digits)

end SystemMetrics.Decimal
