import SystemMetrics.Sampler.Thread

/-!
# The loop of a sampling thread

A sampling thread shares a control with its owner: a flag that asks the thread to end, and a
condition that it waits for. Here the loop stands in the sections that others can come between. The
thread looks at the flag under the lock of the control, once before it waits and once when its wait
is over, and entering the wait gives the lock back in the same section. The owner notifies the
thread under the lock as well, so nothing can fall between a look at the flag and the wait.
-/

namespace SystemMetrics

namespace SamplerThread

/-- A pass as far as its beginning. -/
def beginPass (t : SamplerThread) : SamplerThread := { t with passes := t.now :: t.passes }

/-- The rest of a pass that has begun. -/
def endPass (t : SamplerThread) : SamplerThread :=
  { t with
    now := t.now + t.durations.headD 0
    durations := t.durations.tail
    deadline := t.deadline + t.interval
    panicked := t.panicsAt == some t.passes.length }

theorem endPass_beginPass (t : SamplerThread) : t.beginPass.endPass = t.pass := rfl

end SamplerThread

/-- Where a sampling thread stands. -/
inductive SamplerPlace where
  /-- A pass is to come: the first one, or one that a wait led to. -/
  | decided
  | passing
  /-- The lock of the control is to be taken, to wait if the thread is not to end. -/
  | unlocked
  /-- In the wait. -/
  | parked (notified : Bool)
  /-- Out of the loop. -/
  | leaving
  | exited
  deriving DecidableEq, Repr

/-- What the owner has done with the handle of the thread. -/
inductive SamplerHandle where
  | held
  /-- The owner has asked the thread to end, and waits for that. -/
  | joining
  | joined
  deriving DecidableEq, Repr

/-- A sampling thread in its loop, and its owner. -/
structure SamplerLoop where
  thread : SamplerThread
  place : SamplerPlace := .decided
  terminate : Bool := false
  handle : SamplerHandle := .held
  deriving DecidableEq, Repr

namespace SamplerLoop

/-- A thread that has not done anything yet. -/
def start (interval beganAt : Nat) (durations : List Nat) (panicsAt : Option Nat) : SamplerLoop :=
  { thread := { interval, now := beganAt, deadline := beganAt, durations, panicsAt } }

/-! ## The thread -/

/-- The next section of the thread, if it is not blocked and has not exited. A wait ends with a
notification or at its deadline, and only a wait that ends at its deadline decides on a pass. The
clock is read more than once there; the last reading counts, as the earlier ones decide nothing that
it would not. -/
def next? (l : SamplerLoop) : Option SamplerLoop :=
  match l.place with
  | .decided => some { l with thread := l.thread.beginPass, place := .passing }
  | .passing =>
    let thread := l.thread.endPass
    some { l with thread, place := if thread.panicked then .exited else .unlocked }
  | .unlocked => some { l with place := if l.terminate then .leaving else .parked false }
  | .parked notified =>
    if !notified && l.thread.now < l.thread.deadline then none
    else if l.terminate then some { l with place := .leaving }
    else if notified then some { l with place := .unlocked }
    else some { l with thread := l.thread.catchUp, place := .decided }
  | .leaving => some { l with place := .exited }
  | .exited => none

/-- Lets the thread go on for a number of sections, or until it is blocked or has exited. -/
def proceed : Nat → SamplerLoop → SamplerLoop
  | 0, l => l
  | n + 1, l => match l.next? with
    | none => l
    | some l => proceed n l

/-- Lets time go by. -/
def elapse (span : Nat) (l : SamplerLoop) : SamplerLoop :=
  { l with thread := { l.thread with now := l.thread.now + span } }

/-! ## The owner -/

/-- Notifies the thread. This is lost on a thread that does not wait. -/
def wake (l : SamplerLoop) : SamplerLoop :=
  match l.place with
  | .parked _ => { l with place := .parked true }
  | _ => l

/-- Asks the thread to end, notifies it and begins to wait for its end. An owner that has given its
handle away does nothing. -/
def stop (l : SamplerLoop) : SamplerLoop :=
  match l.handle with
  | .held => { l.wake with terminate := true, handle := .joining }
  | .joining | .joined => l

/-- Ends the owner's wait for the end of the thread. -/
def join? (l : SamplerLoop) : Option SamplerLoop :=
  if l.handle = .joining ∧ l.place = .exited then some { l with handle := .joined } else none

end SamplerLoop

end SystemMetrics
