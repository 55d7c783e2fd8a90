import SystemMetrics.History
import SystemMetrics.Probe
import SystemMetrics.Proc.Meminfo
import SystemMetrics.Proc.Vmstat
import SystemMetrics.Settings

/-!
# Memory

Physical memory and swap are a snapshot that every update overwrites. Page reads and writes are
rates: a pass records both paging counters of one reading, and a rate is the average growth per pass
over the history, divided by the interval.
-/

namespace SystemMetrics

/-- Memory figures in MB. -/
structure MemorySnapshot where
  totalPhysical : Nat := 0
  available : Nat := 0
  used : Nat := 0
  totalSwap : Nat := 0
  availableSwap : Nat := 0
  usedSwap : Nat := 0
  deriving DecidableEq, Repr

/-- The figures of a `meminfo` text. Each is rounded down on its own, after what is used has been
computed in kB; a missing key counts as zero. What is available is a sum of 64 bits, which wraps
around. -/
def MemorySnapshot.ofInfo (info : Proc.Meminfo) : MemorySnapshot :=
  let total := info.memTotal.getD 0
  let available := (info.memFree.getD 0 + info.buffers + info.cached) % Text.word64
  let swapTotal := info.swapTotal.getD 0
  let swapFree := info.swapFree.getD 0
  { totalPhysical := total / 1024
    available := available / 1024
    used := (total - available) / 1024
    totalSwap := swapTotal / 1024
    availableSwap := swapFree / 1024
    usedSwap := (swapTotal - swapFree) / 1024 }

/-- The retained paging counters. -/
structure Paging where
  interval : Duration
  reads : History
  writes : History
  deriving DecidableEq, Repr

namespace Paging

variable {m : Type → Type} [Monad m]

def new (cadence : Cadence) : Paging :=
  { interval := cadence.interval, reads := .new cadence.history, writes := .new cadence.history }

/-- Reads the paging counters, the first step of a pass. -/
def read (probe : Probe m) : m (Except Fault Proc.PagingCounters) := do
  match ← probe.vmStat with
  | .error fault => return .error fault
  | .ok content => match Proc.PagingCounters.parse content with
    | .ok counters => return .ok counters
    | .error e => return .error (.internal "parse_vmstat_paging" e.detail)

/-- Records the counters of one reading, the second step of a pass. -/
def record (counters : Proc.PagingCounters) (takenAt : Nat) (p : Paging) : Paging :=
  { p with
    reads := p.reads.add counters.pagesIn takenAt
    writes := p.writes.add counters.pagesOut takenAt }

/-- One sampling pass. -/
def sample (probe : Probe m) (p : Paging) : m (Except Fault Unit × Paging) := do
  match ← read probe with
  | .error fault => return (.error fault, p)
  | .ok counters => return (.ok (), p.record counters (← probe.monotonicClock))

/-- The average growth per pass over the whole history, per second of the interval. -/
def rate (p : Paging) (h : History) : Float :=
  let seconds := p.interval.toSeconds
  if seconds ≤ 0.0 then 0.0 else h.averageDelta h.capacity / seconds

end Paging

structure Memory where
  snapshot : MemorySnapshot := {}
  paging : Paging
  deriving DecidableEq, Repr

namespace Memory

variable {m : Type → Type} [Monad m]

def new (cadence : Cadence) : Memory := { paging := .new cadence }

/-- Refreshes the snapshot; missing keys are only logged. -/
def update (probe : Probe m) (mem : Memory) : m (Except Fault Unit × Memory) := do
  match ← probe.memInfo with
  | .error fault => return (.error fault, mem)
  | .ok content =>
    let info := Proc.Meminfo.parse content
    if !info.missingKeys.isEmpty then probe.log (.keysMissing info.missingKeys)
    return (.ok (), { mem with snapshot := .ofInfo info })

/-- One sampling pass of the paging counters. -/
def samplePaging (probe : Probe m) (mem : Memory) : m (Except Fault Unit × Memory) := do
  let (result, paging) ← mem.paging.sample probe
  return (result, { mem with paging })

/-- Pages read per second. -/
def pageReads (mem : Memory) : Float := mem.paging.rate mem.paging.reads

/-- Pages written per second. -/
def pageWrites (mem : Memory) : Float := mem.paging.rate mem.paging.writes

/-- Reads the snapshot, before the background sampling begins. -/
def start (probe : Probe m) (mem : Memory) : m (Except Fault Unit × Memory) := do
  match ← mem.update probe with
  | (.error fault, mem) => return (.error fault, mem)
  | (.ok (), mem) =>
    probe.log (.memoryStarted mem.snapshot.totalPhysical mem.paging.interval)
    return (.ok (), mem)

/-- One pass in the background; a failure is only logged. -/
def backgroundPass (probe : Probe m) (mem : Memory) : m Memory := do
  match ← mem.samplePaging probe with
  | (.ok (), mem) => return mem
  | (.error fault, mem) =>
    probe.log (.passFailed .paging fault)
    return mem

end Memory

end SystemMetrics
