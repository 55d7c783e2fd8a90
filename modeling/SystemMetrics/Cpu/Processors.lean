import SystemMetrics.Cpu.Processor
import SystemMetrics.Probe
import SystemMetrics.Proc.CpuInfo
import SystemMetrics.Settings

/-!
# The set of processors

One processor for every index below the number online, and the aggregate. A sampling pass has two
steps: it reads the rows with one time, and then records them. A failed operation records nothing.
-/

namespace SystemMetrics

structure Processors where
  cadence : Cadence
  members : List Processor := []
  total : Processor
  deriving DecidableEq, Repr

namespace Processors

variable {m : Type → Type} [Monad m]

def new (cadence : Cadence) : Processors :=
  { cadence, total := .newTotal cadence.history }

/-- The number of processors without the aggregate. -/
def size (ps : Processors) : Nat := ps.members.length

def find? (ps : Processors) (number : Nat) : Option Processor :=
  ps.members.find? fun p => p.number == number

/-! ## Reconciling -/

/-- Adds processors up to index `count - 1`. -/
def grow (count : Nat) (ps : Processors) : Processors :=
  let added := (List.range' ps.size (count - ps.size)).map fun n => .new n ps.cadence.history
  { ps with members := ps.members ++ added }

/-- Removes the processor with the highest index `excess` times. It is looked up by its index; that
it is not there is a fault of the set itself. -/
def shrink : (excess : Nat) → Processors → Except Fault Unit × Processors
  | 0, ps => (.ok (), ps)
  | n + 1, ps =>
    let highest := ps.size - 1
    match ps.members.findIdx? fun p => p.number == highest with
    | none =>
      (.error (.internal "CpuEnumeration::update"
        ("no CPU instance with index " ++ toString highest ++ " to remove")), ps)
    | some position => shrink n { ps with members := ps.members.eraseIdx position }

/-- Makes the set match the number of processors online. -/
def reconcile (count : Nat) (ps : Processors) : Except Fault Unit × Processors :=
  shrink (ps.size - count) (ps.grow count)

/-! ## Sampling -/

/-- What one reading of `stat` saw. -/
structure Reading where
  content : String
  takenAt : Nat
  deriving DecidableEq, Repr

/-- The first step of a pass. -/
def read (probe : Probe m) : m (Except Fault Reading) := do
  match ← probe.systemStat with
  | .error fault => return .error fault
  | .ok content => return .ok ⟨content, ← probe.monotonicClock⟩

/-- Records the row of the processor `number` in the first member with that index. -/
def recordMember (number : Nat) (row : Proc.TickRow) (takenAt : Nat) :
    List Processor → Option (List Processor)
  | [] => none
  | p :: ps =>
    if p.number = number then some (p.record row takenAt :: ps)
    else (recordMember number row takenAt ps).map (p :: ·)

/-- Records one line of `stat`. Lines that are no good row are logged and change nothing. -/
def recordLine (takenAt : Nat) (ps : Processors) (line : List Char) : Processors × List Event :=
  match Proc.CpuRow.parseChars? line with
  | none => (ps, [])
  | some (.error e) => (ps, [.badCpuRow (String.ofList line) e])
  | some (.ok (.total, row)) => ({ ps with total := ps.total.record row takenAt }, [])
  | some (.ok (.cpu number, row)) =>
    match recordMember number row takenAt ps.members with
    | some members => ({ ps with members }, [])
    | none => (ps, [.unknownCpu number])

/-- Records lines of `stat` in order. -/
def recordLines (takenAt : Nat) : List (List Char) → Processors → Processors × List Event
  | [], ps => (ps, [])
  | line :: rest, ps =>
    let (ps, events) := ps.recordLine takenAt line
    let (ps, more) := recordLines takenAt rest ps
    (ps, events ++ more)

/-- The second step of a pass: records the lines of a reading. -/
def record (reading : Reading) (ps : Processors) : Processors × List Event :=
  recordLines reading.takenAt (Text.lines reading.content.toList) ps

/-- One sampling pass. -/
def sample (probe : Probe m) (ps : Processors) : m (Except Fault Unit × Processors) := do
  match ← read probe with
  | .error fault => return (.error fault, ps)
  | .ok reading =>
    let (ps, events) := ps.record reading
    events.forM probe.log
    return (.ok (), ps)

/-- Reconciles the set with the processors online and, if wanted, samples. -/
def update (probe : Probe m) (sampleToo : Bool) (ps : Processors) :
    m (Except Fault Unit × Processors) := do
  match ← probe.processorsOnline with
  | .error fault => return (.error fault, ps)
  | .ok count =>
    match ps.reconcile count with
    | (.error fault, ps) => return (.error fault, ps)
    | (.ok (), ps) => if sampleToo then ps.sample probe else return (.ok (), ps)

/-! ## Background sampling -/

/-- Builds the set, before the background sampling begins. -/
def start (probe : Probe m) (ps : Processors) : m (Except Fault Unit × Processors) := do
  match ← ps.update probe false with
  | (.error fault, ps) => return (.error fault, ps)
  | (.ok (), ps) =>
    probe.log (.cpusStarted ps.size ps.cadence.interval)
    return (.ok (), ps)

/-- One pass in the background; a failure is only logged. -/
def backgroundPass (probe : Probe m) (ps : Processors) : m Processors := do
  match ← ps.sample probe with
  | (.ok (), ps) => return ps
  | (.error fault, ps) =>
    probe.log (.passFailed .cpu fault)
    return ps

/-! ## Counting processors -/

def logicalCount (probe : Probe m) : m (Except Fault Nat) := probe.processorsOnline

/-- The number of processor packages. -/
def physicalCount (probe : Probe m) : m (Except Fault Nat) := do
  match ← probe.cpuInfo with
  | .error fault => return .error fault
  | .ok content => return .ok (Proc.packageCount content)

end Processors

end SystemMetrics
