import SystemMetrics.Cpu.Ticks
import SystemMetrics.Proc.CpuRow

/-!
# Processors

A processor, or the aggregate of all of them, with a history for each counter.
-/

namespace SystemMetrics

structure Processor where
  /-- The index of the processor; of no meaning for the aggregate. -/
  number : Nat
  isTotal : Bool
  histories : PerMetric History
  deriving DecidableEq, Repr

namespace Processor

def new (number capacity : Nat) : Processor :=
  { number, isTotal := false, histories := .tabulate fun _ => .new capacity }

/-- The aggregate, which the row `cpu` feeds. -/
def newTotal (capacity : Nat) : Processor := { new 0 capacity with isTotal := true }

def name (p : Processor) : String := if p.isTotal then "_Total" else toString p.number

def history (p : Processor) (k : CpuMetric) : History := p.histories.get k

/-- Appends a sample to the history of one counter. -/
def addSample (p : Processor) (k : CpuMetric) (value takenAt : Nat) : Processor :=
  { p with histories := .tabulate fun j =>
      if j = k then (p.history j).add value takenAt else p.history j }

/-- The counters of a row together with their sum. -/
def countersOf (row : Proc.TickRow) : PerMetric Nat :=
  ⟨row.user, row.nice, row.system, row.idle, row.iowait, row.irq, row.softirq, row.total⟩

/-- Appends a whole row with one time. -/
def record (p : Processor) (row : Proc.TickRow) (takenAt : Nat) : Processor :=
  { p with histories := .tabulate fun k => (p.history k).add ((countersOf row).get k) takenAt }

def delta (p : Processor) (k : CpuMetric) (goBack : Nat) : Nat := (p.history k).delta goBack

/-- The growth of every counter over one window. -/
def tickDeltas (p : Processor) (goBack : Nat) : CpuTicks := .tabulate fun k => p.delta k goBack

end Processor

end SystemMetrics
