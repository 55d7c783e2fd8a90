import SystemMetrics.Duration
import SystemMetrics.Fault
import SystemMetrics.Proc.ParseError
import SystemMetrics.Text.Quoted

/-!
# Log events

Everything the sampler and the daemon write to the log. An event has a level, a message and named
fields; the wording of all of them stands here.
-/

namespace SystemMetrics

inductive Level where
  | error
  | warn
  | info
  | debug
  deriving DecidableEq, Repr

def Level.name : Level → String
  | .error => "ERROR"
  | .warn => "WARN"
  | .info => "INFO"
  | .debug => "DEBUG"

/-- The severity as a number; higher numbers are more detailed. -/
def Level.detail : Level → Nat
  | .error => 0
  | .warn => 1
  | .info => 2
  | .debug => 3

/-- The system settings that are asked for by name. -/
inductive Setting where
  | processorsOnline
  | clockTicks
  | pageSize
  deriving DecidableEq, Repr

def Setting.name : Setting → String
  | .processorsOnline => "ProcessorsOnline"
  | .clockTicks => "ClockTicks"
  | .pageSize => "PageSize"

/-- The three families that sample in the background. -/
inductive Family where
  | cpu
  | paging
  | process
  deriving DecidableEq, Repr

def Family.passName : Family → String
  | .cpu => "CPU sampling pass"
  | .paging => "paging sampling pass"
  | .process => "process sampling pass"

/-- The name of the thread that samples a family. -/
def Family.threadName : Family → String
  | .cpu => "syspal-cpu"
  | .paging => "syspal-memory"
  | .process => "syspal-process"

/-- The sections of a report that are refreshed on demand. -/
inductive Section where
  | memory
  | interfaces
  | processes
  deriving DecidableEq, Repr

def Section.name : Section → String
  | .memory => "Memory"
  | .interfaces => "Network interface"
  | .processes => "Process"

inductive Event where
  /-- A setting of the system is unknown or not positive. -/
  | settingFallback (key : Setting) (fallback : Nat)
  | badCpuRow (line : String) (error : Proc.ParseError)
  | unknownCpu (number : Nat)
  | cpusStarted (cpus : Nat) (interval : Duration)
  | keysMissing (keys : List String)
  | memoryStarted (totalMb : Nat) (interval : Duration)
  /-- A process could not be refreshed; only the first failing pass of a run of them is loud. -/
  | refreshFailed (loud : Bool) (pid : Nat) (fault : Fault)
  | passHadErrors (errors : Nat)
  | passRecovered
  | processesStarted (processes : Nat) (interval : Duration)
  | interfacesStarted (interfaces : Nat)
  | passFailed (family : Family) (fault : Fault)
  | samplerPanicked (thread : String)
  | updateFailed (part : Section) (fault : Fault)
  /-- A line of a report that is written to the log. -/
  | reportLine (text : String)
  /-- A line that adds to a report where more detail is wanted. -/
  | reportDetail (text : String)
  | daemonStarting
  | configured (procPath : String) (cpu memory process : Duration) (reportSeconds : Nat)
  | startFailed (fault : Fault)
  | loopStarting
  | shutdownRequested
  | shuttingDown
  | shutDown
  deriving DecidableEq, Repr

/-- The value of a field: text of its own, or a string, which stands between quotation marks where
fields are written out in a line. -/
inductive FieldValue where
  | shown (text : String)
  | text (s : String)
  deriving DecidableEq, Repr

def FieldValue.plain : FieldValue → String
  | .shown t => t
  | .text s => s

def FieldValue.inLine : FieldValue → String
  | .shown t => t
  | .text s => Text.quoted s

namespace Event

/-- Name and version of the program. -/
def program : String := "syspald 0.1.0"

def level : Event → Level
  | .settingFallback .. | .keysMissing .. | .passHadErrors .. | .passFailed ..
  | .updateFailed .. => .warn
  | .badCpuRow .. | .unknownCpu .. | .samplerPanicked .. | .startFailed .. => .error
  | .refreshFailed loud .. => if loud then .warn else .debug
  | .reportDetail .. => .debug
  | .cpusStarted .. | .memoryStarted .. | .passRecovered | .processesStarted ..
  | .interfacesStarted .. | .reportLine .. | .daemonStarting | .configured .. | .loopStarting
  | .shutdownRequested | .shuttingDown | .shutDown => .info

def message : Event → String
  | .settingFallback .. => "sysconf value unavailable, using fallback"
  | .badCpuRow .. => "malformed cpu row in /proc/stat"
  | .unknownCpu .. => "no CPU instance for /proc/stat row"
  | .cpusStarted .. => "CPU enumeration started"
  | .keysMissing .. => "keys missing from /proc/meminfo"
  | .memoryStarted .. => "memory instance started"
  | .refreshFailed .. => "failed to refresh process"
  | .passHadErrors .. => "process enumeration pass had errors"
  | .passRecovered => "process enumeration recovered"
  | .processesStarted .. => "process enumeration started"
  | .interfacesStarted .. => "network interface enumeration started"
  | .passFailed family _ => family.passName ++ " failed"
  | .samplerPanicked .. => "sampler thread panicked"
  | .updateFailed part fault => part.name ++ " update failed: " ++ fault.message
  | .reportLine text | .reportDetail text => text
  | .daemonStarting => program ++ " starting"
  | .configured procPath cpu memory process reportSeconds =>
    "Config: proc=" ++ procPath ++ ", cpu=" ++ cpu.text ++ ", memory=" ++ memory.text
      ++ ", process=" ++ process.text ++ ", report=" ++ toString reportSeconds ++ "s"
  | .startFailed fault => "Failed to start samplers: " ++ fault.message
  | .loopStarting => "Starting report loop"
  | .shutdownRequested => "Received shutdown signal"
  | .shuttingDown => "Shutting down..."
  | .shutDown => "Shutdown complete"

def fields : Event → List (String × FieldValue)
  | .settingFallback key fallback =>
    [("key", .shown key.name), ("fallback", .shown (toString fallback))]
  | .badCpuRow line error => [("line", .text line), ("error", .shown error.message)]
  | .unknownCpu number => [("proc_number", .shown (toString number))]
  | .cpusStarted cpus interval =>
    [("cpus", .shown (toString cpus)), ("interval", .shown interval.text)]
  | .keysMissing keys =>
    [("missing", .shown ("[" ++ ", ".intercalate (keys.map Text.quoted) ++ "]"))]
  | .memoryStarted totalMb interval =>
    [("total_mb", .shown (toString totalMb)), ("interval", .shown interval.text)]
  | .refreshFailed _ pid fault =>
    [("pid", .shown (toString pid)), ("error", .shown fault.message)]
  | .passHadErrors errors => [("errors", .shown (toString errors))]
  | .processesStarted processes interval =>
    [("processes", .shown (toString processes)), ("interval", .shown interval.text)]
  | .interfacesStarted interfaces => [("interfaces", .shown (toString interfaces))]
  | .passFailed _ fault => [("error", .shown fault.message)]
  | .samplerPanicked thread => [("thread", .shown thread)]
  | _ => []

/-- Control characters that a terminal acts on are written as escapes in a message. -/
def escapeControl (c : Char) : List Char :=
  match c with
  | '\x1b' => "\\x1b".toList
  | '\x07' => "\\x07".toList
  | '\x08' => "\\x08".toList
  | '\x0c' => "\\x0c".toList
  | '\x7f' => "\\x7f".toList
  | _ => if 0x80 ≤ c.toNat ∧ c.toNat ≤ 0x9f then Text.unicodeEscape c else [c]

/-- The event as a line: level, message and fields. -/
def line (e : Event) : String :=
  let message := String.ofList (e.message.toList.flatMap escapeControl)
  " ".intercalate (e.level.name :: message :: e.fields.map fun (name, value) =>
    name ++ "=" ++ value.inLine)

end Event

end SystemMetrics
