import SystemMetrics.Duration

/-!
# Sampling settings

How often each family samples and how many samples it keeps.
-/

namespace SystemMetrics

/-- The cadence of one family. -/
structure Cadence where
  /-- The time between two passes. -/
  interval : Duration
  /-- The capacity of every history of the family. -/
  history : Nat
  deriving DecidableEq, Repr

structure Settings where
  /-- The root of the proc tree. -/
  procPath : String := "/proc"
  cpu : Cadence := ⟨.ofSeconds 10, 7⟩
  memory : Cadence := ⟨.ofSeconds 60, 6⟩
  process : Cadence := ⟨.ofSeconds 60, 2⟩
  deriving DecidableEq, Repr

end SystemMetrics
