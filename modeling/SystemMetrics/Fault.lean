import SystemMetrics.ReadError

/-!
# Faults

The ways an operation of the sampler fails. A process that disappears between being listed and being
read is no fault; what stands here is to be logged, skipped or reported.
-/

namespace SystemMetrics

inductive Fault where
  /-- Content of the operating system was malformed, or a state was not as expected. -/
  | internal (call detail : String)
  /-- A system call failed. -/
  | osCall (call : String) (errno : Int)
  /-- A file under the proc root could not be read. -/
  | unreadable (path : String) (source : ReadError)
  /-- A size or a count is over its cap. -/
  | exhausted (what : String) (limit : Nat)
  /-- The caller lacks the privilege that a value needs. -/
  | accessViolation (what : String)
  /-- The platform lacks a facility. -/
  | unsupported (facility : String)
  deriving DecidableEq, Repr

namespace Fault

def message : Fault → String
  | .internal call detail => "internal error in " ++ call ++ ": " ++ detail
  | .osCall call errno => call ++ " failed with errno " ++ toString errno
  | .unreadable path source => "I/O error reading " ++ path ++ ": " ++ source.message
  | .exhausted what limit => "resource exhausted: " ++ what ++ " exceeds " ++ toString limit
  | .accessViolation what => "access violation: " ++ what
  | .unsupported facility => "not supported on this platform: " ++ facility

def isAccessViolation : Fault → Bool
  | .accessViolation _ => true
  | _ => false

end Fault

end SystemMetrics
