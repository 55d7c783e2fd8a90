import SystemMetrics.Proc.Cmdline
import SystemMetrics.Proc.Terminal
import SystemMetrics.Process.Entry
import SystemMetrics.Process.State

/-!
# Values of a process

What is reported about a process, computed from what its last refresh and the timed values hold.
Three values are read anew each time: the kernel function it waits in, the file it executes and its
arguments.
-/

namespace SystemMetrics

namespace ProcessEntry

variable {m : Type → Type} [Monad m]

/-! ## Identity and scheduling -/

def startTicks (p : ProcessEntry) : Nat := p.stat.startTicks

def comm (p : ProcessEntry) : String := p.stat.comm

/-- The command name; that of a zombie is marked. -/
def name (p : ProcessEntry) : String :=
  if p.stat.state = 'Z' then "[" ++ p.stat.comm ++ "] <defunct>" else p.stat.comm

/-- The kernel's priority, shifted to what is shown to users. -/
def priority (p : ProcessEntry) : Int := Proc.Stat.signed32 (p.stat.priority + 60)

def state (p : ProcessEntry) : ExecutionState := .ofLinux p.stat.state

/-- A number of clock ticks in milliseconds, rounded down. -/
def ticksToMs (p : ProcessEntry) (ticks : Nat) : Nat := Proc.mulSaturating ticks 1000 / p.clockTicks

/-- The latest millisecond that a creation date can have. -/
def lastDateMs : Nat := 8210266876799999

/-- When the process was created; none beyond the range of dates. -/
def creationDate? (p : ProcessEntry) : Option Timestamp :=
  let ms := Proc.addSaturating (Proc.mulSaturating p.bootTime 1000) (p.ticksToMs p.stat.startTicks)
  if ms ≤ lastDateMs then some ⟨ms⟩ else none

def terminationDate? (p : ProcessEntry) : Option Timestamp := p.timeOfDeath

/-- The nice value, shifted so that the usual ones are not negative. -/
def nice? (p : ProcessEntry) : Option Nat :=
  let shifted := Proc.Stat.signed32 (p.stat.nice + 20)
  if shifted < 0 then none else some shifted.toNat

/-- The controlling terminal; daemons have none. -/
def terminal? (p : ProcessEntry) : Option String := Proc.Terminal.name? p.stat.ttyNr

/-! ## Values that are read anew -/

/-- The kernel function that the process sleeps in. -/
def waitingFor? (probe : Probe m) (p : ProcessEntry) : m (Option String) := do
  match ← probe.processFile p.pid "wchan" with
  | .error _ => return none
  | .ok content =>
    let event := Text.trim content.toList
    if event.isEmpty || event == ['0'] then return none
    else return some (String.ofList event)

/-- Fails while the last refresh was denied the reading of `io`. -/
def checkRootAccess (p : ProcessEntry) : Except Fault Unit :=
  if p.accessViolation then
    .error (.accessViolation
      ("pid " ++ toString p.pid ++ ": /proc/" ++ toString p.pid ++ "/io is not readable"))
  else .ok ()

/-- The file that the process executes; kernel threads have none. -/
def executable? (probe : Probe m) (p : ProcessEntry) : m (Except Fault (Option String)) := do
  match p.checkRootAccess with
  | .error fault => return .error fault
  | .ok () =>
    match ← probe.processExecutable p.pid with
    | .ok path => return .ok (some path)
    | .error e =>
      if e.isGone then return .ok none
      else if e.isDenied then
        return .error (.accessViolation
          ("pid " ++ toString p.pid ++ ": /proc/" ++ toString p.pid ++ "/exe"))
      else return .error (readFault p.pid "exe" e)

/-- The most arguments that are listed. -/
def maxArguments : Nat := 256

/-- The largest argument vector that is listed, in bytes. -/
def maxArgumentBytes : Nat := 1024 * 1024

/-- The arguments; a vector over a cap is replaced by the command name in brackets. -/
def arguments? (probe : Probe m) (p : ProcessEntry) : m (Option (List String)) := do
  match ← probe.processBytes p.pid "cmdline" with
  | .error _ => return none
  | .ok bytes => match Proc.Cmdline.parse maxArguments maxArgumentBytes bytes with
    | .ok arguments => return some arguments
    | .error _ => return some ["[" ++ p.stat.comm ++ "]"]

/-! ## Processor time -/

/-- A number of ticks as a percentage of the wall clock of the timed values. -/
def percentOfReal (p : ProcessEntry) (ticks : Nat) : Float :=
  if p.timed.realMs = 0 then 0.0
  else
    let busyMs := counterToFloat ticks * 1000.0 / counterToFloat p.clockTicks
    busyMs * 100.0 / counterToFloat p.timed.realMs

def kernelMs (p : ProcessEntry) : Nat := p.ticksToMs p.stat.systemTicks

def userMs (p : ProcessEntry) : Nat := p.ticksToMs p.stat.userTicks

/-- The share of the wall clock spent on a processor. -/
def cpuPercent (p : ProcessEntry) : Float :=
  p.percentOfReal (p.timed.userTicks + p.timed.systemTicks)

def userPercent (p : ProcessEntry) : Float := p.percentOfReal p.timed.userTicks

def privilegedPercent (p : ProcessEntry) : Float := p.percentOfReal p.timed.systemTicks

/-- Processor time of children that were waited for. -/
def childrenMs (p : ProcessEntry) : Nat :=
  p.ticksToMs (p.stat.childUserTicks.toNat + p.stat.childSystemTicks.toNat)

/-- Kernel time of children that were waited for. -/
def childrenSystemMs (p : ProcessEntry) : Nat := p.ticksToMs p.stat.childSystemTicks.toNat

/-! ## Memory -/

def pagesToBytes (p : ProcessEntry) (pages : Nat) : Nat := Proc.mulSaturating pages p.pageSize

/-- The bytes of the resident set. -/
def residentBytes (p : ProcessEntry) : Nat := p.pagesToBytes p.stat.residentPages.toNat

def usedMemoryKb (p : ProcessEntry) : Nat := p.residentBytes / 1024

/-- The resident set as a share of the virtual size. -/
def usedMemoryPercent (p : ProcessEntry) : Float :=
  if p.stat.virtualSize = 0 then 0.0
  else counterToFloat p.residentBytes * 100.0 / counterToFloat p.stat.virtualSize

def virtualText (p : ProcessEntry) : Nat := p.pagesToBytes p.statm.text

def virtualData (p : ProcessEntry) : Nat := p.pagesToBytes p.statm.data

def virtualShared (p : ProcessEntry) : Nat := p.pagesToBytes p.statm.shared

/-! ## Rates -/

/-- A number of items in a window of milliseconds, per second. -/
def perSecond (items windowMs : Nat) : Float :=
  if windowMs = 0 then 0.0 else counterToFloat items * 1000.0 / counterToFloat windowMs

def pagesReadPerSecond (p : ProcessEntry) : Float := perSecond p.timed.majorFaults p.timed.realMs

/-- A rate of calls counted in `io`; none without `io`, and a fault where it was denied. -/
def callRate (p : ProcessEntry) (calls : Nat) : Except Fault (Option Float) := do
  p.checkRootAccess
  return p.io.map fun _ => perSecond calls p.timed.ioRealMs

def blockReadsPerSecond (p : ProcessEntry) : Except Fault (Option Float) :=
  p.callRate p.timed.readCalls

def blockWritesPerSecond (p : ProcessEntry) : Except Fault (Option Float) :=
  p.callRate p.timed.writeCalls

def blockTransfersPerSecond (p : ProcessEntry) : Except Fault (Option Float) :=
  p.callRate (p.timed.readCalls + p.timed.writeCalls)

/-! ## Description -/

/-- A time of the wall clock as whole seconds, rounded down, and nanoseconds. -/
def clockText (t : Timestamp) : String :=
  "SystemTime \x7b tv_sec: " ++ toString (t.milliseconds.fdiv 1000) ++ ", tv_nsec: "
    ++ toString (t.milliseconds.fmod 1000 * 1000000) ++ " \x7d"

/-- The main facts of a process on one line, for developers. -/
def summary (p : ProcessEntry) : String :=
  "ProcessInstance \x7b pid: " ++ toString p.pid ++ ", comm: " ++ Text.quoted p.stat.comm
    ++ ", state: " ++ Text.quotedChar p.stat.state ++ ", access_violation: "
    ++ toString p.accessViolation ++ ", time_of_death: "
    ++ (match p.timeOfDeath with
        | none => "None"
        | some t => "Some(" ++ clockText t ++ ")")
    ++ ", .. \x7d"

end ProcessEntry

end SystemMetrics
