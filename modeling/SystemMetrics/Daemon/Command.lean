import SystemMetrics.Daemon.Families
import SystemMetrics.Daemon.Loop
import SystemMetrics.Daemon.Options

/-!
# The daemon command

The parts of a run of the daemon: the messages at its start, the start of the families, one report,
and the messages at its end.
-/

namespace SystemMetrics

namespace Command

variable {m : Type → Type} [Monad m]

/-- The most detailed level that is written. -/
def logLevel (o : Options) : Level :=
  if o.quiet then .error else if o.verbose = 0 then .info else .debug

/-- Whether an event is written at a level. -/
def isWritten (level : Level) (e : Event) : Bool := e.level.detail ≤ level.detail

/-- The messages before the start. -/
def announce (probe : Probe m) (o : Options) : m Unit := do
  let s := o.settings
  probe.log .daemonStarting
  probe.log (.configured s.procPath s.cpu.interval s.memory.interval s.process.interval
    o.reportInterval)

/-- Starts the families; none if that failed, which is logged. -/
def start (probe : Probe m) (o : Options) : m (Option Families) := do
  announce probe o
  match ← Families.start probe probe o.settings {} with
  | .error fault =>
    probe.log (.startFailed fault)
    return none
  | .ok families =>
    probe.log .loopStarting
    return some families

/-- Makes a report. One that is wanted as JSON is handed out to be printed, any other is written to
the log. -/
def report (probe : Probe m) (o : Options) (f : Families) : m (Option Report × Families) := do
  let (r, f) ← f.report probe o.top
  if o.json then return (some r, f)
  else
    r.logLines probe
    return (none, f)

/-- Stops the sampling threads, with the messages before and after. -/
def shutDown (probe : Probe m) (o : Options) (f : Families) : m Unit := do
  probe.log .shuttingDown
  Families.stop probe o.settings f.threads
  probe.log .shutDown

end Command

end SystemMetrics
