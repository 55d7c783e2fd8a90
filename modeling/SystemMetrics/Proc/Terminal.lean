/-!
# Controlling terminals

The column `tty_nr` of `stat` packs a device number: the low eight bits of the minor number, twelve
bits of the major number, and the higher bits of the minor number.
-/

namespace SystemMetrics.Proc.Terminal

def major (device : Nat) : Nat := device / 0x100 % 0x1000

def minor (device : Nat) : Nat := device % 0x100 + device / 0x100000 * 0x100

/-- The name of a terminal. -/
def nameOf (major minor : Nat) : String :=
  if major = 4 then
    if minor < 64 then "tty" ++ toString minor else "ttyS" ++ toString (minor - 64)
  else if 136 ≤ major ∧ major ≤ 143 then "pts/" ++ toString ((major - 136) * 256 + minor)
  else toString major ++ ":" ++ toString minor

/-- The terminal that `tty_nr` stands for; none for zero and below. -/
def name? (ttyNr : Int) : Option String :=
  if ttyNr ≤ 0 then none else some (nameOf (major ttyNr.toNat) (minor ttyNr.toNat))

end SystemMetrics.Proc.Terminal
