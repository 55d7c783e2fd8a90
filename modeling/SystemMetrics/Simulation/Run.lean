import SystemMetrics.Daemon.Command
import SystemMetrics.Simulation.World

/-!
# Runs of the daemon on a simulated machine

Sleeping takes no time but moves the wall clock. The request to stop comes during the sleep that
reaches a given total. A run is the exit code, the reports that were printed and the events that
were logged.
-/

namespace SystemMetrics

namespace Simulation

/-- The result of a run. -/
structure Run where
  exitCode : Nat
  /-- The reports printed as JSON, in order. -/
  printed : List Report
  events : List Event

/-- A daemon in its report loop. -/
structure Daemon where
  world : World
  families : Families
  loop : ReportLoop
  /-- How long it has slept, in milliseconds. -/
  slept : Nat := 0
  stopRequested : Bool := false
  printed : List Report := []
  events : List Event := []

/-- When the request to stop comes, in milliseconds of sleep. -/
abbrev Interrupt := Option Nat

/-- Sleeps; the request to stop comes if the total is reached. -/
def Daemon.sleep (interrupt : Interrupt) (ms : Nat) (d : Daemon) : Daemon :=
  let slept := d.slept + ms
  let interrupted := !d.stopRequested && interrupt.any (· ≤ slept)
  { d with
    slept
    world := { d.world with wallClock := ⟨d.world.wallClock.milliseconds + ms⟩ }
    stopRequested := d.stopRequested || interrupted
    events := if interrupted then d.events ++ [.shutdownRequested] else d.events }

/-- Makes one report. -/
def Daemon.report (o : Options) (d : Daemon) : Daemon :=
  let probe := World.machine.probe o.procPath
  let ((printed, families), world, events) := Command.report probe o d.families d.world
  { d with
    world, families
    printed := d.printed ++ printed.toList
    events := d.events ++ events }

/-- Runs the report loop for at most `bound` actions. -/
def Daemon.run (o : Options) (interrupt : Interrupt) : (bound : Nat) → Daemon → Daemon
  | 0, d => d
  | n + 1, d =>
    match d.loop.next d.stopRequested with
    | (.finish, loop) => { d with loop }
    | (.sleep ms, loop) => run o interrupt n ({ d with loop }.sleep interrupt ms)
    | (.report, loop) => run o interrupt n ({ d with loop }.report o)

/-- A number of actions after which the loop has ended. With an interval each nap takes a
millisecond at least, and a report comes after a nap. A loop that nothing ends is not begun. -/
def actionBound (o : Options) (interrupt : Interrupt) : Nat :=
  if o.once then o.reportInterval * 10 + 3
  else match interrupt with
    | some ms => 2 * ms + 3
    | none => 0

/-- A whole run. -/
def run (o : Options) (interrupt : Interrupt) (world : World) : Run :=
  let probe := World.machine.probe o.procPath
  let visible := List.filter (Command.isWritten (Command.logLevel o))
  match Command.start probe o world with
  | (none, _, events) => ⟨1, [], visible events⟩
  | (some families, world, events) =>
    let d : Daemon := { world, families, events, loop := .start o.reportInterval o.once }
    let d := d.run o interrupt (actionBound o interrupt)
    let (_, _, ending) := Command.shutDown probe o d.families d.world
    ⟨0, d.printed, visible (d.events ++ ending)⟩

end Simulation

end SystemMetrics
