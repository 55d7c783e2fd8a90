import SystemMetrics.ReadError
import SystemMetrics.Text.Utf8

/-!
# File contents

A file holds text or bytes. Reading bytes as text fails unless they are well-formed UTF-8.
-/

namespace SystemMetrics

inductive Content where
  | text (s : String)
  | bytes (b : List UInt8)
  deriving DecidableEq, Repr

namespace Content

def asText : Content → Except ReadError String
  | .text s => .ok s
  | .bytes b => match Text.Utf8.decode? b with
    | some cs => .ok (String.ofList cs)
    | none => .error .notText

def asBytes : Content → List UInt8
  | .text s => Text.Utf8.encode s.toList
  | .bytes b => b

end Content

end SystemMetrics
