import SystemMetrics.History
import SystemMetrics.Probe
import SystemMetrics.Proc.CpuRow
import SystemMetrics.Proc.Io
import SystemMetrics.Proc.Stat
import SystemMetrics.Proc.Statm

/-!
# Processes

What is known about one process. A refresh reads `stat`, the owner, `statm` and `io` one after the
other and commits them together: a process that vanishes halfway, or a read that fails, leaves
everything as it was. A sampling call pushes the committed counters into the histories, and the
timed values are the growth of the counters over the whole histories.
-/

namespace SystemMetrics

/-- The histories of a process. The counters of `io` are only sampled while `io` is readable, so
they have a wall clock of their own. -/
structure ProcessHistories where
  realMs : History
  user : History
  system : History
  majorFaults : History
  ioRealMs : History
  readCalls : History
  writeCalls : History
  deriving DecidableEq, Repr

def ProcessHistories.new (capacity : Nat) : ProcessHistories :=
  ⟨.new capacity, .new capacity, .new capacity, .new capacity, .new capacity, .new capacity,
   .new capacity⟩

/-- The growth of the counters over the whole retained history. -/
structure TimedValues where
  /-- Wall clock, in milliseconds. -/
  realMs : Nat := 0
  userTicks : Nat := 0
  systemTicks : Nat := 0
  majorFaults : Nat := 0
  /-- Wall clock that the counters of `io` cover, in milliseconds. -/
  ioRealMs : Nat := 0
  readCalls : Nat := 0
  writeCalls : Nat := 0
  deriving DecidableEq, Repr

structure ProcessEntry where
  pid : Nat
  /-- Clock ticks per second, at least one. -/
  clockTicks : Nat
  pageSize : Nat
  /-- Seconds since 1970. -/
  bootTime : Nat
  stat : Proc.Stat
  statm : Proc.Statm := {}
  io : Option Proc.Io := none
  /-- User and group. -/
  owner : Nat × Nat := (0, 0)
  /-- Whether the last refresh was denied the reading of `io`. -/
  accessViolation : Bool := false
  /-- The time of the first sample that saw the process terminated. -/
  timeOfDeath : Option Timestamp := none
  histories : ProcessHistories
  timed : TimedValues := {}
  deriving DecidableEq, Repr

namespace ProcessEntry

variable {m : Type → Type} [Monad m]

/-- A process of which nothing has been read. -/
def new (probe : Probe m) (pid bootTime history : Nat) : m ProcessEntry := do
  let clockTicks ← probe.clockTicks
  let pageSize ← probe.pageSize
  return {
    pid, pageSize, bootTime
    clockTicks := max clockTicks 1
    stat := { pid }
    histories := .new history }

/-! ## Refreshing -/

/-- Why a refresh ends before everything is read. -/
inductive Interruption where
  /-- The process vanished. -/
  | gone
  | fault (f : Fault)
  deriving DecidableEq, Repr

/-- A failed read of a file of the process; the file is named below `/proc`. -/
def readFault (pid : Nat) (name : String) (e : ReadError) : Fault :=
  .unreadable ("/proc/" ++ toString pid ++ "/" ++ name) e

/-- What a failed read of a file of the process means for the refresh. -/
def interruption (pid : Nat) (name : String) (e : ReadError) : Interruption :=
  if e.isGone then .gone else .fault (readFault pid name e)

/-- Reads a file that every live process has. Blank content means that the process exited while the
file was opened. -/
def readLive (probe : Probe m) (pid : Nat) (name : String) : ExceptT Interruption m String := do
  match ← probe.processFile pid name with
  | .ok content =>
    if (Text.trim content.toList).isEmpty then throw .gone else return content
  | .error e => throw (interruption pid name e)

/-- A malformed file of the process. -/
def parseFault (call : String) (pid : Nat) (e : Proc.ParseError) : Fault :=
  .internal call ("pid " ++ toString pid ++ ": " ++ e.detail)

def readStat (probe : Probe m) (pid : Nat) : ExceptT Interruption m Proc.Stat := do
  match Proc.Stat.parse (← readLive probe pid "stat") with
  | .ok stat => return stat
  | .error e => throw (.fault (parseFault "parse_proc_stat" pid e))

def readOwner (probe : Probe m) (pid : Nat) : ExceptT Interruption m (Nat × Nat) := do
  match ← probe.processOwner pid with
  | .ok owner => return owner
  | .error e => throw (interruption pid "stat" e)

def readStatm (probe : Probe m) (pid : Nat) : ExceptT Interruption m Proc.Statm := do
  match Proc.Statm.parse (← readLive probe pid "statm") with
  | .ok statm => return statm
  | .error e => throw (.fault (parseFault "parse_proc_statm" pid e))

/-- Reads the counters of `io` and whether they were denied. A vanished `io` only means that there
are no counters if `stat` is still there. -/
def readIo (probe : Probe m) (pid : Nat) : ExceptT Interruption m (Option Proc.Io × Bool) := do
  match ← probe.processFile pid "io" with
  | .ok content => return (some (Proc.Io.parse content), false)
  | .error e =>
    if e.isDenied then return (none, true)
    else if e.isGone then
      let _ ← readLive probe pid "stat"
      return (none, false)
    else throw (.fault (readFault pid "io" e))

/-- Reads everything of a process. The owner is read only at first; a zombie has given up its
memory, so its `statm` is left as it is. -/
def observe (probe : Probe m) (initial : Bool) (p : ProcessEntry) :
    ExceptT Interruption m ProcessEntry := do
  let stat ← readStat probe p.pid
  let owner ← if initial then readOwner probe p.pid else pure p.owner
  let statm ← if stat.state = 'Z' then pure p.statm else readStatm probe p.pid
  let (io, accessViolation) ← readIo probe p.pid
  return { p with stat, owner, statm, io, accessViolation }

/-- Refreshes a process: true if everything was read, false if it vanished. -/
def refresh (probe : Probe m) (initial : Bool) (p : ProcessEntry) :
    m (Except Fault Bool × ProcessEntry) := do
  match ← (p.observe probe initial).run with
  | .ok p => return (.ok true, p)
  | .error .gone => return (.ok false, p)
  | .error (.fault f) => return (.error f, p)

/-! ## Sampling -/

/-- Whether a state letter is one of a terminated process. -/
def isTerminal (state : Char) : Bool := state == 'Z' || state == 'X'

/-- Pushes one sample of every counter. The first call that sees the process terminated records
`now` as its time of death. -/
def sample (now : Timestamp) (takenAt : Nat) (p : ProcessEntry) : ProcessEntry :=
  let realMs := now.sinceEpoch
  let h := p.histories
  let h := { h with
    realMs := h.realMs.add realMs takenAt
    user := h.user.add p.stat.userTicks takenAt
    system := h.system.add p.stat.systemTicks takenAt
    majorFaults := h.majorFaults.add p.stat.majorFaults takenAt }
  let h := match p.io with
    | none => h
    | some io => { h with
        ioRealMs := h.ioRealMs.add realMs takenAt
        readCalls := h.readCalls.add io.readCalls takenAt
        writeCalls := h.writeCalls.add io.writeCalls takenAt }
  let death := if p.timeOfDeath.isNone && isTerminal p.stat.state then some now else p.timeOfDeath
  { p with histories := h, timeOfDeath := death }

/-- The growth of a counter over its whole history. -/
def fullDelta (h : History) : Nat := h.delta h.capacity

/-- Recomputes the timed values. -/
def updateTimed (p : ProcessEntry) : ProcessEntry :=
  { p with timed := {
      realMs := fullDelta p.histories.realMs
      userTicks := fullDelta p.histories.user
      systemTicks := fullDelta p.histories.system
      majorFaults := fullDelta p.histories.majorFaults
      ioRealMs := fullDelta p.histories.ioRealMs
      readCalls := fullDelta p.histories.readCalls
      writeCalls := fullDelta p.histories.writeCalls } }

/-- The number of samples since the process was found, up to the capacity. -/
def sampleCount (p : ProcessEntry) : Nat := p.histories.realMs.length

/-- Sends a signal; false if the process is gone. -/
def sendSignal (probe : Probe m) (signal : Int) (p : ProcessEntry) : m (Except Fault Bool) :=
  probe.sendSignal p.pid signal

end ProcessEntry

end SystemMetrics
