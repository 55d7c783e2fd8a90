/-!
# Execution states

The state of a process in a model common to several platforms. Each platform has codes of its own;
one that is not known gives `unknown`.
-/

namespace SystemMetrics

inductive ExecutionState where
  | unknown
  | other
  | ready
  | running
  | blocked
  | suspendedBlocked
  | suspendedReady
  | terminated
  | stopped
  | growing
  | relinquished
  | hung
  deriving DecidableEq, Repr

namespace ExecutionState

/-- Every state, in the order of the codes. -/
def all : List ExecutionState :=
  [.unknown, .other, .ready, .running, .blocked, .suspendedBlocked, .suspendedReady, .terminated,
   .stopped, .growing, .relinquished, .hung]

/-- The number of a state. -/
def code : ExecutionState → Nat
  | .unknown => 0
  | .other => 1
  | .ready => 2
  | .running => 3
  | .blocked => 4
  | .suspendedBlocked => 5
  | .suspendedReady => 6
  | .terminated => 7
  | .stopped => 8
  | .growing => 9
  | .relinquished => 10
  | .hung => 11

/-- The name that is shown. -/
def name : ExecutionState → String
  | .unknown => "Unknown"
  | .other => "Other"
  | .ready => "Ready"
  | .running => "Running"
  | .blocked => "Blocked"
  | .suspendedBlocked => "Suspended_Blocked"
  | .suspendedReady => "Suspended_Ready"
  | .terminated => "Terminated"
  | .stopped => "Stopped"
  | .growing => "Growing"
  | .relinquished => "Relinquished"
  | .hung => "Hung"

/-- The name in a report: the shown name without the underscore. -/
def key (s : ExecutionState) : String :=
  match s with
  | .suspendedBlocked => "SuspendedBlocked"
  | .suspendedReady => "SuspendedReady"
  | _ => s.name

/-- The state with a given report name. -/
def ofKey? (key : String) : Option ExecutionState := all.find? fun s => s.key == key

/-- The state letter of `/proc/<pid>/stat`. -/
def ofLinux (letter : Char) : ExecutionState :=
  match letter with
  | 'R' => .running
  | 'S' => .suspendedReady
  | 'D' => .suspendedBlocked
  | 'Z' | 'X' => .terminated
  | 'T' => .stopped
  | 'W' => .growing
  | _ => .unknown

/-- The Solaris `pr_sname` of the representative thread. -/
def ofSolaris (letter : Char) : ExecutionState :=
  match letter with
  | 'O' => .running
  | 'S' => .suspendedReady
  | 'R' => .ready
  | 'Z' => .terminated
  | 'T' => .stopped
  | _ => .unknown

/-- The HP-UX `pst_stat`. -/
def ofHpux (status : Int) : ExecutionState :=
  match status with
  | 1 => .suspendedReady
  | 2 => .running
  | 3 => .stopped
  | 4 => .terminated
  | 5 => .ready
  | 6 => .other
  | _ => .unknown

/-- The AIX `pr_sname`; a zombie with an unknown letter is terminated. -/
def ofAix (letter : Char) (zombie : Bool) : ExecutionState :=
  match letter with
  | 'O' => .other
  | 'A' => .ready
  | 'R' => .running
  | 'S' | 'I' => .suspendedReady
  | 'W' => .suspendedBlocked
  | 'Z' => .terminated
  | 'T' => .stopped
  | _ => if zombie then .terminated else .unknown

end ExecutionState

end SystemMetrics
