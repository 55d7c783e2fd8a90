/-!
# Sample histories

A history keeps the most recent samples of one counter, up to its capacity. A delta compares the
newest sample with one some steps older; a request for more steps than there are uses all of them,
and a counter that went down has a delta of zero.
-/

namespace SystemMetrics

/-- A cumulative counter as it was read in one pass. -/
structure Sample where
  value : Nat
  /-- The time on the monotonic clock, in nanoseconds. -/
  takenAt : Nat
  deriving DecidableEq, Repr

structure History where
  capacity : Nat
  /-- The samples, the newest first. -/
  samples : List Sample := []
  deriving DecidableEq, Repr

/-- A counter as a float, rounded to nearest. Exact for the counters of the system, which are below
`2 ^ 64`. -/
def counterToFloat (n : Nat) : Float := n.toUInt64.toFloat

namespace History

/-- The empty history; a capacity of zero counts as one. -/
def new (capacity : Nat) : History := { capacity := max capacity 1 }

/-- Adds a sample and drops the oldest one if the history is full. -/
def add (h : History) (value takenAt : Nat) : History :=
  let kept := if h.samples.length ≥ h.capacity then h.samples.dropLast else h.samples
  { h with samples := ⟨value, takenAt⟩ :: kept }

def clear (h : History) : History := { h with samples := [] }

def length (h : History) : Nat := h.samples.length

def isEmpty (h : History) : Bool := h.samples.isEmpty

/-- The newest sample. -/
def latest? (h : History) : Option Sample := h.samples.head?

/-- The oldest sample. -/
def oldest? (h : History) : Option Sample := h.samples.getLast?

/-- The values, the oldest first. -/
def values (h : History) : List Nat := h.samples.reverse.map (·.value)

/-- The number of steps that a request for `goBack` steps really goes back. -/
def steps (h : History) (goBack : Nat) : Nat := min goBack (h.samples.length - 1)

/-- The older and the newest sample of a window; none if it spans no step. -/
def window? (h : History) (goBack : Nat) : Option (Sample × Sample) :=
  if h.steps goBack = 0 then none
  else do
    let old ← h.samples[h.steps goBack]?
    let new ← h.latest?
    return (old, new)

/-- How much the counter grew over a window, and the time that the window spans; both are zero
where they would be negative. -/
def timedDelta (h : History) (goBack : Nat) : Nat × Nat :=
  match h.window? goBack with
  | none => (0, 0)
  | some (old, new) => (new.value - old.value, new.takenAt - old.takenAt)

def delta (h : History) (goBack : Nat) : Nat := (h.timedDelta goBack).1

/-- The delta of a window per step. -/
def averageDelta (h : History) (goBack : Nat) : Float :=
  if h.steps goBack = 0 then 0.0
  else counterToFloat (h.delta goBack) / counterToFloat (h.steps goBack)

/-! ## Adding -/

@[simp] theorem capacity_add (h : History) (value takenAt : Nat) :
    (h.add value takenAt).capacity = h.capacity := rfl

/-- A full history moves on by one sample, any other grows by one. -/
theorem samples_add (h : History) (value takenAt : Nat) (hc : 0 < h.capacity)
    (hl : h.samples.length ≤ h.capacity) :
    (h.add value takenAt).samples =
      ((⟨value, takenAt⟩ : Sample) :: h.samples).take h.capacity := by
  obtain ⟨n, hn⟩ : ∃ n, h.capacity = n + 1 := ⟨h.capacity - 1, by omega⟩
  simp only [add, hn, List.take_succ_cons]
  split
  · rw [List.dropLast_eq_take, show h.samples.length - 1 = n by omega]
  · rw [List.take_of_length_le (by omega)]

end History

end SystemMetrics
