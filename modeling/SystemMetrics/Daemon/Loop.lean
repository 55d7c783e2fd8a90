/-!
# The report loop

The daemon sleeps for the report interval in short naps, so that it notices a request to stop, then
reports, and begins again. With `once` it ends after the first report.
-/

namespace SystemMetrics

/-- What the daemon does next. -/
inductive LoopAction where
  | sleep (ms : Nat)
  | report
  | finish
  deriving DecidableEq, Repr

/-- Where the report loop stands. All times are in milliseconds. -/
structure ReportLoop where
  interval : Nat
  once : Bool
  /-- What is left of the sleep before the next report. -/
  remaining : Nat
  finished : Bool := false
  deriving DecidableEq, Repr

namespace ReportLoop

/-- The longest nap. -/
def nap : Nat := 100

def start (intervalSeconds : Nat) (once : Bool) : ReportLoop :=
  { interval := intervalSeconds * 1000, once, remaining := intervalSeconds * 1000 }

/-- The next action, and where the loop stands after it. A request to stop is noticed before every
action. -/
def next (l : ReportLoop) (stopRequested : Bool) : LoopAction × ReportLoop :=
  if l.finished || stopRequested then (.finish, { l with finished := true })
  else if l.remaining > 0 then
    let ms := min l.remaining nap
    (.sleep ms, { l with remaining := l.remaining - ms })
  else (.report, { l with remaining := l.interval, finished := l.once })

end ReportLoop

end SystemMetrics
