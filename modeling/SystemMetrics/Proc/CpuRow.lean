import SystemMetrics.Proc.ParseError
import SystemMetrics.Text.Blank
import SystemMetrics.Text.Line
import SystemMetrics.Text.Numeral

/-!
# `/proc/stat`

The rows `cpu` and `cpu<n>` hold tick counters, the row `btime` the time of boot. A tick row needs
the four columns user, nice, system and idle; the next three are read only if all are there.
-/

namespace SystemMetrics.Proc

/-- Which processor a tick row belongs to. -/
inductive CpuRow where
  | total
  | cpu (number : Nat)
  deriving DecidableEq, Repr

/-- The tick counters of one row since boot. -/
structure TickRow where
  user : Nat := 0
  nice : Nat := 0
  system : Nat := 0
  idle : Nat := 0
  iowait : Nat := 0
  irq : Nat := 0
  softirq : Nat := 0
  deriving DecidableEq, Repr

/-- A sum of two counters that stops at the largest 64-bit number. -/
def addSaturating (a b : Nat) : Nat := min (a + b) (Text.word64 - 1)

/-- A product of two counters that stops at the largest 64-bit number. -/
def mulSaturating (a b : Nat) : Nat := min (a * b) (Text.word64 - 1)

/-- The sum of all columns. -/
def TickRow.total (t : TickRow) : Nat :=
  [t.nice, t.system, t.idle, t.iowait, t.irq, t.softirq].foldl addSaturating t.user

namespace CpuRow

open Text

/-- The processor that the first word of a row names after `cpu`. -/
def ofSuffix? : List Char → Option CpuRow
  | [] => some .total
  | suffix => (natural64? suffix).map .cpu

/-- One tick value of the row called `row`. -/
def ticks (row value : List Char) : Except ParseError Nat :=
  match natural64? value with
  | some n => .ok n
  | none => .error (.badTicks (String.ofList value) (String.ofList row))

/-- Reads the columns of a row after its name. -/
def ticksOfColumns (row : List Char) : List (List Char) → Except ParseError TickRow
  | user :: nice :: system :: idle :: rest => do
    let user ← ticks row user
    let nice ← ticks row nice
    let system ← ticks row system
    let idle ← ticks row idle
    match rest with
    | iowait :: irq :: softirq :: _ =>
      let iowait ← ticks row iowait
      let irq ← ticks row irq
      let softirq ← ticks row softirq
      return { user, nice, system, idle, iowait, irq, softirq }
    | _ => return { user, nice, system, idle }
  | columns => .error (.fewTickColumns (String.ofList row) (columns.length + 1))

/-- The suffix of a word that starts with `cpu`. -/
def suffix? : List Char → Option (List Char)
  | 'c' :: 'p' :: 'u' :: suffix => some suffix
  | _ => none

/-- Reads a line of `/proc/stat`; `none` if it is no tick row. -/
def parseChars? (line : List Char) : Option (Except ParseError (CpuRow × TickRow)) :=
  match words line with
  | [] => none
  | name :: columns =>
    match suffix? name with
    | none => none
    | some suffix =>
      match ofSuffix? suffix with
      | none => some (.error (.badRowName (String.ofList name)))
      | some row => some ((ticksOfColumns name columns).map fun t => (row, t))

def parse? (line : String) : Option (Except ParseError (CpuRow × TickRow)) :=
  parseChars? line.toList

end CpuRow

/-- What follows `start` in a text that begins with it. -/
def after? (start text : List Char) : Option (List Char) :=
  if start.isPrefixOf text then some (text.drop start.length) else none

/-- The time of boot, in seconds since 1970: the value of the first line that starts with
`btime` and a space, if it is a number. -/
def bootTime? (content : String) : Option Nat :=
  match (Text.lines content.toList).findSome? (after? "btime ".toList) with
  | none => none
  | some value => Text.natural64? (Text.trim value)

end SystemMetrics.Proc
