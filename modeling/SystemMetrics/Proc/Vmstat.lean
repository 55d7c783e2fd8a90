import SystemMetrics.Proc.ParseError
import SystemMetrics.Text.Blank
import SystemMetrics.Text.Line
import SystemMetrics.Text.Numeral

/-!
# `/proc/vmstat`

Lines of a key and a number. Of the two paging counters the last line counts, whether its value is a
number or not; both have to be there.
-/

namespace SystemMetrics.Proc

/-- Pages read and written since boot. -/
structure PagingCounters where
  pagesIn : Nat := 0
  pagesOut : Nat := 0
  deriving DecidableEq, Repr

namespace PagingCounters

open Text

/-- What the lines read so far say about the two counters. -/
structure Found where
  pagesIn : Option Nat := none
  pagesOut : Option Nat := none

def Found.addLine (found : Found) (line : List Char) : Found :=
  match words line with
  | key :: value :: _ =>
    if key = "pgpgin".toList then { found with pagesIn := natural64? value }
    else if key = "pgpgout".toList then { found with pagesOut := natural64? value }
    else found
  | _ => found

def parse (content : String) : Except ParseError PagingCounters :=
  match (lines content.toList).foldl Found.addLine {} with
  | ⟨some pagesIn, some pagesOut⟩ => .ok { pagesIn, pagesOut }
  | _ => .error .noPagingCounters

end PagingCounters

end SystemMetrics.Proc
