import SystemMetrics.Report
import SystemMetrics.Sampler.Thread

/-!
# Families

The four families of metrics that the daemon keeps. They are started one after the other, and the
first that cannot be started ends the start. A family that samples in the background does so in a
thread of its own, which begins with one pass whatever becomes of the families after it. At a
report, memory, interfaces and processes are refreshed on demand; a section that cannot be refreshed
is reported as it was.
-/

namespace SystemMetrics

/-- The sampling thread of a family. -/
structure FamilyThread where
  family : Family
  /-- The monotonic clock when the thread began. -/
  beganAt : Nat
  deriving DecidableEq, Repr

structure Families where
  cpus : Processors
  memory : Memory
  processes : ProcessTable
  interfaces : InterfaceTable := {}
  /-- The registry that the discovery of interfaces uses. -/
  registry : Registry := {}
  /-- The sampling threads, in the order in which they began. -/
  threads : List FamilyThread := []

namespace Families

variable {m : Type → Type} [Monad m]

def new (settings : Settings) (registry : Registry) : Families :=
  { cpus := .new settings.cpu
    memory := .new settings.memory
    processes := .new settings.process
    registry }

/-- The interval at which a family samples. -/
def intervalOf (settings : Settings) : Family → Duration
  | .cpu => settings.cpu.interval
  | .paging => settings.memory.interval
  | .process => settings.process.interval

/-! ## Threads -/

/-- Adds the sampling thread of a family. -/
def beginThread (probe : Probe m) (family : Family) (f : Families) : m Families := do
  return { f with threads := f.threads ++ [⟨family, ← probe.monotonicClock⟩] }

/-- One pass of a family. -/
def pass (probe : Probe m) (f : Families) : Family → m Families
  | .cpu => return { f with cpus := ← f.cpus.backgroundPass probe }
  | .paging => return { f with memory := ← f.memory.backgroundPass probe }
  | .process => return { f with processes := ← f.processes.backgroundPass probe }

/-- The pass that every thread begins with. -/
def firstPasses (probe : Probe m) (f : Families) : m Families :=
  f.threads.foldlM (fun f thread => f.pass probe thread.family) f

/-- Stops threads one after the other. That a thread has panicked is noticed and logged then. -/
def stop (probe : Probe m) (settings : Settings) (threads : List FamilyThread) : m Unit :=
  threads.forM fun thread =>
    if SamplerThread.outlastsClock thread.beganAt (intervalOf settings thread.family) then
      probe.log (.samplerPanicked thread.family.threadName)
    else pure ()

/-! ## Start -/

/-- Starts the families in order, up to the first failure. -/
def launch (probe : Probe m) (settings : Settings) (registry : Registry) :
    m (Except Fault Unit × Families) := do
  let f := new settings registry
  match ← f.cpus.start probe with
  | (.error fault, cpus) => return (.error fault, { f with cpus })
  | (.ok (), cpus) =>
    let f ← { f with cpus }.beginThread probe .cpu
    match ← f.memory.start probe with
    | (.error fault, memory) => return (.error fault, { f with memory })
    | (.ok (), memory) =>
      let f ← { f with memory }.beginThread probe .paging
      match ← f.processes.start probe with
      | (.error fault, processes) => return (.error fault, { f with processes })
      | (.ok (), processes) =>
        let f ← { f with processes }.beginThread probe .process
        let (result, interfaces, registry) ← f.interfaces.start probe f.registry
        return (result, { f with interfaces, registry })

/-- Starts the families and lets their threads, which have the second probe, make their first pass.
If a family fails, the threads of those before it are stopped again, the latest first. -/
def start (probe background : Probe m) (settings : Settings) (registry : Registry) :
    m (Except Fault Families) := do
  let (result, f) ← launch probe settings registry
  let f ← f.firstPasses background
  match result with
  | .ok () => return .ok f
  | .error fault =>
    stop probe settings f.threads.reverse
    return .error fault

/-! ## Reports -/

/-- Logs the failure of a section. -/
def noteFailure (probe : Probe m) (part : Section) : Except Fault Unit → m Unit
  | .ok () => return ()
  | .error fault => probe.log (.updateFailed part fault)

/-- Refreshes what is refreshed on demand. -/
def refresh (probe : Probe m) (f : Families) : m Families := do
  let (result, memory) ← f.memory.update probe
  noteFailure probe .memory result
  let (result, interfaces, registry) ← f.interfaces.update probe false f.registry
  noteFailure probe .interfaces result
  let (result, processes) ← f.processes.update probe true
  noteFailure probe .processes result
  return { f with memory, interfaces, registry, processes }

/-- The report of the present values. -/
def assemble (now : Timestamp) (top : Nat) (f : Families) : Report where
  timestamp := now
  cpu := .ofTotal f.cpus.total f.cpus.size
  memory := ⟨f.memory.snapshot, f.memory.pageReads, f.memory.pageWrites⟩
  processCount := f.processes.size
  topProcesses := topProcesses f.processes.processes top
  interfaces := f.interfaces.interfaces

/-- Refreshes the families and reports them. -/
def report (probe : Probe m) (top : Nat) (f : Families) : m (Report × Families) := do
  let f ← f.refresh probe
  return (f.assemble (← probe.wallClock) top, f)

end Families

/-- Writes a report to the log. -/
def Report.logLines {m : Type → Type} [Monad m] (probe : Probe m) (r : Report) : m Unit :=
  r.entries.forM probe.log

end SystemMetrics
