import SystemMetrics.Event

/-!
# Sampling threads

A sampling thread runs one pass at once and then one per interval. Between passes it waits for a
deadline; only a wait that ends at its deadline leads to a pass, a wake-up merely lets the thread
wait again. The deadline moves on by one interval per pass, and a thread that is late by more than
an interval starts counting anew. Time here is virtual: a pass takes a given time, and between
passes the clock moves only when it is advanced, which is while the thread waits. The loop of the
thread in sections lets time go by between any two of them.
-/

namespace SystemMetrics

/-- A sampling thread on its clock. All times are in the same unit. -/
structure SamplerThread where
  interval : Nat
  now : Nat := 0
  deadline : Nat := 0
  /-- How long the coming passes take; after these they take no time. -/
  durations : List Nat := []
  /-- The start times of the passes so far, the latest first. -/
  passes : List Nat := []
  /-- The number of the pass that panics at its end, counted from one. -/
  panicsAt : Option Nat := none
  panicked : Bool := false
  deriving DecidableEq, Repr

namespace SamplerThread

/-- Runs a pass and moves the deadline on. -/
def pass (t : SamplerThread) : SamplerThread :=
  let passes := t.now :: t.passes
  { t with
    passes
    now := t.now + t.durations.headD 0
    durations := t.durations.tail
    deadline := t.deadline + t.interval
    panicked := t.panicsAt == some passes.length }

/-- Whether a wait ends at once, because the deadline has come. -/
def isDue (t : SamplerThread) : Bool := !t.panicked && t.deadline ≤ t.now

/-- Gives up on passes that were missed: a deadline more than an interval ago becomes the
present. -/
def catchUp (t : SamplerThread) : SamplerThread :=
  if t.now > t.deadline + t.interval then { t with deadline := t.now } else t

/-- Runs passes as long as waits end at once, but at most `bound`. -/
def settle : (bound : Nat) → SamplerThread → SamplerThread
  | 0, t => t
  | n + 1, t => if t.isDue then settle n t.catchUp.pass else t

/-- A number of passes after which a thread with a positive interval waits: those that take time,
and at most three that take none. -/
def settleBound (t : SamplerThread) : Nat := t.durations.length + 3

/-- Runs the thread until it waits. -/
def run (t : SamplerThread) : SamplerThread := settle t.settleBound t

/-- Begins a thread and runs it until it waits. -/
def start (interval : Nat) (durations : List Nat) (panicsAt : Option Nat) : SamplerThread :=
  (pass { interval, durations, panicsAt }).run

/-- Advances the clock, wakes the thread and runs it until it waits again. -/
def advance (span : Nat) (t : SamplerThread) : SamplerThread := run { t with now := t.now + span }

/-- What stopping the thread logs. -/
def stopEvents (name : String) (t : SamplerThread) : List Event :=
  if t.panicked then [.samplerPanicked name] else []

/-- The end of the monotonic clock, in nanoseconds. -/
def clockEnd : Nat := 0x8000000000000000 * 1000000000

/-- Whether the deadline after the first pass of a thread that began at `beganAt` lies beyond the
end of the clock. A thread with such an interval panics as soon as that pass is over. -/
def outlastsClock (beganAt : Nat) (interval : Duration) : Bool :=
  beganAt + interval.nanoseconds ≥ clockEnd

/-- The start times of the passes, the earliest first. -/
def passTimes (t : SamplerThread) : List Nat := t.passes.reverse

end SamplerThread

end SystemMetrics
