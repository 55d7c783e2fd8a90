import SystemMetrics.Text.Blank
import SystemMetrics.Text.Line
import SystemMetrics.Text.Numeral

/-!
# `/proc/<pid>/io`

Lines of the form `key: value`. The last line of a key counts; a value that is no number counts as
zero, and so does a missing key.
-/

namespace SystemMetrics.Proc

/-- The numbers of read and write calls that a process has issued. -/
structure Io where
  readCalls : Nat := 0
  writeCalls : Nat := 0
  deriving DecidableEq, Repr

namespace Io

open Text

def setKey (io : Io) (key : List Char) (value : Nat) : Io :=
  if key = "syscr".toList then { io with readCalls := value }
  else if key = "syscw".toList then { io with writeCalls := value }
  else io

def addLine (io : Io) (line : List Char) : Io :=
  match cut ':' line with
  | none => io
  | some (key, value) => io.setKey (trim key) ((natural64? (trim value)).getD 0)

def parse (content : String) : Io := (lines content.toList).foldl addLine {}

end Io

end SystemMetrics.Proc
