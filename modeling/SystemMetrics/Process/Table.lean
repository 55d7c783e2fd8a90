import SystemMetrics.Process.Values
import SystemMetrics.Settings

/-!
# The table of processes

One process for every listed number, in ascending order. A refresh adds new processes, refreshes the
known ones, replaces those whose number has been given to another process, and drops those that are
gone. A process that cannot be refreshed stays as it is, and a new one that cannot be read is left
out; both count as errors of the pass.
-/

namespace SystemMetrics

structure ProcessTable where
  cadence : Cadence
  /-- The processes in ascending order of their numbers. -/
  processes : List ProcessEntry := []
  /-- Seconds since 1970. -/
  bootTime : Nat := 0
  /-- Whether the last pass had errors. -/
  failing : Bool := false
  deriving DecidableEq, Repr

namespace ProcessTable

variable {m : Type → Type} [Monad m]

def new (cadence : Cadence) : ProcessTable := { cadence }

def size (t : ProcessTable) : Nat := t.processes.length

/-- The process with a number. -/
def lookup (pid : Nat) (ps : List ProcessEntry) : Option ProcessEntry :=
  ps.find? fun p => p.pid == pid

def find? (t : ProcessTable) (pid : Nat) : Option ProcessEntry := lookup pid t.processes

/-- The processes whose command name is exactly `name`. -/
def named (t : ProcessTable) (name : String) : List ProcessEntry :=
  t.processes.filter fun p => p.comm == name

/-! ## Changes to the list -/

/-- Puts a process at its place, instead of one with the same number. -/
def insert (p : ProcessEntry) : List ProcessEntry → List ProcessEntry
  | [] => [p]
  | q :: rest =>
    if p.pid < q.pid then p :: q :: rest
    else if p.pid = q.pid then p :: rest
    else q :: insert p rest

def erase (pid : Nat) (ps : List ProcessEntry) : List ProcessEntry :=
  ps.filter fun p => p.pid != pid

/-- Makes `settled` the process with the number `pid`. -/
def put (pid : Nat) (settled : Option ProcessEntry) (ps : List ProcessEntry) : List ProcessEntry :=
  match settled with
  | none => erase pid ps
  | some p => insert p ps

/-! ## Refreshing -/

/-- What a pass leaves of one listed number: its process, and why it could not be refreshed. -/
structure Settled where
  process? : Option ProcessEntry := none
  fault? : Option Fault := none
  deriving DecidableEq, Repr

/-- Reads a process afresh. One that vanishes or cannot be read is left out. -/
def readAfresh (probe : Probe m) (t : ProcessTable) (pid : Nat) : m Settled := do
  let fresh ← ProcessEntry.new probe pid t.bootTime t.cadence.history
  match ← fresh.refresh probe true with
  | (.ok true, p) => return { process? := some p }
  | (.ok false, _) => return {}
  | (.error fault, _) => return { fault? := some fault }

/-- Refreshes a known process, which stays as it is if that fails. If it then has another start
time, its number belongs to another process, which is read afresh. -/
def refreshKnown (probe : Probe m) (t : ProcessTable) (p : ProcessEntry) : m Settled := do
  match ← p.refresh probe false with
  | (.ok true, q) =>
    if q.startTicks = p.startTicks then return { process? := some q }
    else readAfresh probe t p.pid
  | (.ok false, _) => return {}
  | (.error fault, _) => return { process? := some p, fault? := some fault }

/-- Settles what becomes of one listed number, given the process that is known under it. -/
def settle (probe : Probe m) (t : ProcessTable) (pid : Nat) : Option ProcessEntry → m Settled
  | none => readAfresh probe t pid
  | some p => refreshKnown probe t p

/-- The state of a pass: the processes so far and the number of errors. -/
structure Progress where
  processes : List ProcessEntry
  errors : Nat := 0
  deriving DecidableEq, Repr

/-- The state of a pass after the number `pid` has been settled. -/
def Progress.add (progress : Progress) (pid : Nat) (settled : Settled) : Progress :=
  { processes := put pid settled.process? progress.processes
    errors := progress.errors + if settled.fault?.isSome then 1 else 0 }

/-- What settling the number `pid` logs. -/
def Settled.events (loud : Bool) (pid : Nat) (settled : Settled) : List Event :=
  (settled.fault?.map (.refreshFailed loud pid)).toList

/-- Handles one listed number. -/
def visit (probe : Probe m) (t : ProcessTable) (loud : Bool) (progress : Progress) (pid : Nat) :
    m Progress := do
  let settled ← settle probe t pid (lookup pid progress.processes)
  (settled.events loud pid).forM probe.log
  return progress.add pid settled

/-- What a pass with `errors` errors logs at its end: the first failing pass and the first good one
after it. -/
def passEvents (failing : Bool) (errors : Nat) : List Event :=
  if errors > 0 && !failing then [.passHadErrors errors]
  else if errors = 0 && failing then [.passRecovered]
  else []

/-- Brings the table up to date. -/
def refresh (probe : Probe m) (t : ProcessTable) : m (Except Fault Unit × ProcessTable) := do
  match ← probe.listPids with
  | .error fault => return (.error fault, t)
  | .ok pids =>
    let listed := t.processes.filter fun p => pids.contains p.pid
    let progress ← pids.foldlM (visit probe t !t.failing) { processes := listed }
    (passEvents t.failing progress.errors).forM probe.log
    return (.ok (), { t with processes := progress.processes, failing := progress.errors > 0 })

/-- Brings the table up to date and, if wanted, recomputes the timed values. -/
def update (probe : Probe m) (timedToo : Bool) (t : ProcessTable) :
    m (Except Fault Unit × ProcessTable) := do
  match ← t.refresh probe with
  | (.error fault, t) => return (.error fault, t)
  | (.ok (), t) =>
    let processes := if timedToo then t.processes.map ProcessEntry.updateTimed else t.processes
    return (.ok (), { t with processes })

/-! ## Sampling -/

/-- The part of a sampling pass that follows the reading of the wall clock: brings the table up to
date and pushes a sample into every process. -/
def sampleAt (probe : Probe m) (now : Timestamp) (t : ProcessTable) :
    m (Except Fault Unit × ProcessTable) := do
  match ← t.refresh probe with
  | (.error fault, t) => return (.error fault, t)
  | (.ok (), t) =>
    let takenAt ← probe.monotonicClock
    return (.ok (), { t with processes := t.processes.map (ProcessEntry.sample now takenAt) })

/-- One sampling pass. -/
def sample (probe : Probe m) (t : ProcessTable) : m (Except Fault Unit × ProcessTable) := do
  t.sampleAt probe (← probe.wallClock)

/-- Reads the time of boot and builds the table, before the background sampling begins. -/
def start (probe : Probe m) (t : ProcessTable) : m (Except Fault Unit × ProcessTable) := do
  match ← probe.bootTime with
  | .error fault => return (.error fault, t)
  | .ok bootTime =>
    match ← { t with bootTime }.update probe true with
    | (.error fault, t) => return (.error fault, t)
    | (.ok (), t) =>
      probe.log (.processesStarted t.size t.cadence.interval)
      return (.ok (), t)

/-- One pass in the background; a failure is only logged. -/
def backgroundPass (probe : Probe m) (t : ProcessTable) : m ProcessTable := do
  match ← t.sample probe with
  | (.ok (), t) => return t
  | (.error fault, t) =>
    probe.log (.passFailed .process fault)
    return t

/-! ## Signals and counts -/

/-- Signals the processes one after the other, up to the first that cannot be signalled. -/
def signalAll (probe : Probe m) (signal : Int) (delivered : Bool) :
    List ProcessEntry → m (Except Fault Bool)
  | [] => return .ok delivered
  | p :: rest => do
    match ← p.sendSignal probe signal with
    | .error fault => return .error fault
    | .ok sent => signalAll probe signal (delivered || sent) rest

/-- Signals every process called `name`; whether at least one was signalled. -/
def sendSignalByName (probe : Probe m) (name : String) (signal : Int) (t : ProcessTable) :
    m (Except Fault Bool) :=
  signalAll probe signal false (t.named name)

/-- The number of processes listed at present. -/
def listedCount (probe : Probe m) : m (Except Fault Nat) := do
  match ← probe.listPids with
  | .error fault => return .error fault
  | .ok pids => return .ok pids.length

end ProcessTable

end SystemMetrics
