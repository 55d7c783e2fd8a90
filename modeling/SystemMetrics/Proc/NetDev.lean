import SystemMetrics.Text.Blank
import SystemMetrics.Text.Line
import SystemMetrics.Text.Numeral

/-!
# `/proc/net/dev`

Two header lines and one line per interface: its name, a colon, and columns of which the first
counter may touch the colon. Lines without a colon or with fewer than 14 columns are skipped; a
column that is no number counts as zero.
-/

namespace SystemMetrics.Proc

/-- The counters of one interface. -/
structure NetDev where
  interface : String
  bytesReceived : Nat
  packetsReceived : Nat
  errorsReceiving : Nat
  bytesSent : Nat
  packetsSent : Nat
  errorsSending : Nat
  collisions : Nat
  deriving DecidableEq, Repr

namespace NetDev

open Text

/-- The value of the column `index`, zero if it is no number. -/
def column (columns : List (List Char)) (index : Nat) : Nat :=
  ((columns[index]?).bind natural64?).getD 0

def ofLine? (line : List Char) : Option NetDev :=
  match cut ':' line with
  | none => none
  | some (name, rest) =>
    let columns := words rest
    if columns.length < 14 then none
    else some {
      interface := String.ofList (trim name)
      bytesReceived := column columns 0
      packetsReceived := column columns 1
      errorsReceiving := column columns 2
      bytesSent := column columns 8
      packetsSent := column columns 9
      errorsSending := column columns 10
      collisions := column columns 13 }

/-- The interfaces in the order of the file. -/
def parse (content : String) : List NetDev := ((lines content.toList).drop 2).filterMap ofLine?

end NetDev

end SystemMetrics.Proc
