import SystemMetrics.History

/-!
# Processor ticks

The counters that are kept for every processor, and their growth over a window with the shares that
follow from it.
-/

namespace SystemMetrics

/-- The counters of a processor. -/
inductive CpuMetric where
  | user
  | nice
  | system
  | idle
  | iowait
  | irq
  | softirq
  /-- The sum of the others. -/
  | total
  deriving DecidableEq, Repr

def CpuMetric.all : List CpuMetric :=
  [.user, .nice, .system, .idle, .iowait, .irq, .softirq, .total]

/-- One value for every counter. -/
structure PerMetric (α : Type) where
  user : α
  nice : α
  system : α
  idle : α
  iowait : α
  irq : α
  softirq : α
  total : α
  deriving DecidableEq, Repr

namespace PerMetric

variable {α β : Type}

def get (p : PerMetric α) : CpuMetric → α
  | .user => p.user
  | .nice => p.nice
  | .system => p.system
  | .idle => p.idle
  | .iowait => p.iowait
  | .irq => p.irq
  | .softirq => p.softirq
  | .total => p.total

/-- The table of a function. -/
def tabulate (f : CpuMetric → α) : PerMetric α :=
  ⟨f .user, f .nice, f .system, f .idle, f .iowait, f .irq, f .softirq, f .total⟩

def toList (p : PerMetric α) : List α := CpuMetric.all.map p.get

@[simp] theorem get_tabulate (f : CpuMetric → α) (k : CpuMetric) : (tabulate f).get k = f k := by
  cases k <;> rfl

end PerMetric

/-- How much each counter grew over a window. -/
abbrev CpuTicks := PerMetric Nat

namespace CpuTicks

/-- The share of the window that was not idle, as a percentage; none in an empty window. -/
def percentBusy (t : CpuTicks) : Option Float :=
  if t.total = 0 then none
  else some (counterToFloat (t.total - t.idle) * 100.0 / counterToFloat t.total)

/-- The share of the window that went into one counter, as a percentage. -/
def percent (t : CpuTicks) (k : CpuMetric) : Option Float :=
  if t.total = 0 then none
  else some (counterToFloat (t.get k) * 100.0 / counterToFloat t.total)

end CpuTicks

end SystemMetrics
