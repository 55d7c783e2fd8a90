import SystemMetrics.Fault
import SystemMetrics.Text.Utf8

/-!
# `/proc/<pid>/cmdline`

Arguments that each end in a zero byte. Two zero bytes in a row end the vector, only its first
argument may be empty. A vector over a cap of bytes or of arguments is refused.
-/

namespace SystemMetrics.Proc.Cmdline

def text (segment : List UInt8) : String := String.ofList (Text.Utf8.decodeLossy segment)

/-- Takes arguments off the segments between zero bytes, after `taken` arguments. An empty segment
ends the vector unless it is the first one; one argument too many is refused when it is met. -/
def take (maxArguments taken : Nat) : List (List UInt8) → Except Fault (List String)
  | [] => .ok []
  | segment :: rest => do
    if segment.isEmpty && taken > 0 then return []
    if taken = maxArguments then throw (.exhausted "argument count" maxArguments)
    let arguments ← take maxArguments (taken + 1) rest
    return text segment :: arguments

def parse (maxArguments maxBytes : Nat) (bytes : List UInt8) : Except Fault (List String) :=
  if bytes.length > maxBytes then .error (.exhausted "argument vector bytes" maxBytes)
  else if bytes.isEmpty then .ok []
  else take maxArguments 0 (bytes.splitOnP (· == 0))

end SystemMetrics.Proc.Cmdline
