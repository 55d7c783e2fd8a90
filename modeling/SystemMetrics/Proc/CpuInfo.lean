import SystemMetrics.Text.Blank
import SystemMetrics.Text.Line
import SystemMetrics.Text.Numeral

/-!
# `/proc/cpuinfo`

Lines of the form `key : value`. The number of processor packages is the number of different values
of `physical id`; they need not follow each other without gaps.
-/

namespace SystemMetrics.Proc

open Text

/-- The package number on a line, if it holds one. -/
def packageOfLine? (line : List Char) : Option Nat :=
  match cut ':' line with
  | none => none
  | some (key, value) =>
    if trim key = "physical id".toList then natural64? (trim value) else none

/-- How many different packages are listed. -/
def packageCount (content : String) : Nat :=
  ((lines content.toList).filterMap packageOfLine?).eraseDups.length

end SystemMetrics.Proc
