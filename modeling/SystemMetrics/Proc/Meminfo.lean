import SystemMetrics.Text.Blank
import SystemMetrics.Text.Line
import SystemMetrics.Text.Numeral

/-!
# `/proc/meminfo`

Lines of a key and a number of kB. Of a key's lines the last one with a number counts. Four keys are
mandatory; which of them are missing is left to the caller.
-/

namespace SystemMetrics.Proc

/-- Memory figures in kB. -/
structure Meminfo where
  memTotal : Option Nat := none
  memFree : Option Nat := none
  buffers : Nat := 0
  cached : Nat := 0
  swapTotal : Option Nat := none
  swapFree : Option Nat := none
  deriving DecidableEq, Repr

namespace Meminfo

open Text

/-- The mandatory keys that are absent, in their fixed order. -/
def missingKeys (info : Meminfo) : List String :=
  [("MemTotal", info.memTotal), ("MemFree", info.memFree), ("SwapTotal", info.swapTotal),
   ("SwapFree", info.swapFree)].filterMap fun (key, value) =>
    if value.isNone then some key else none

def setKey (info : Meminfo) (key : List Char) (value : Nat) : Meminfo :=
  if key = "MemTotal:".toList then { info with memTotal := some value }
  else if key = "MemFree:".toList then { info with memFree := some value }
  else if key = "Buffers:".toList then { info with buffers := value }
  else if key = "Cached:".toList then { info with cached := value }
  else if key = "SwapTotal:".toList then { info with swapTotal := some value }
  else if key = "SwapFree:".toList then { info with swapFree := some value }
  else info

def addLine (info : Meminfo) (line : List Char) : Meminfo :=
  match words line with
  | key :: value :: _ =>
    match natural64? value with
    | some n => info.setKey key n
    | none => info
  | _ => info

def parse (content : String) : Meminfo := (lines content.toList).foldl addLine {}

end Meminfo

end SystemMetrics.Proc
