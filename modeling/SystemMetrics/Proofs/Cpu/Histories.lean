import SystemMetrics.Cpu.Processor

/-!
# The histories of a processor

A row gives every history of a processor one sample, and all of these samples have one time. The
histories of a processor that only rows feed are therefore of one length, and samples that stand at
the same place in them come from the same row.
-/

namespace SystemMetrics

namespace History

/-- The times of the samples, the newest first. -/
def times (h : History) : List Nat := h.samples.map (·.takenAt)

@[simp] theorem length_times (h : History) : h.times.length = h.length :=
  List.length_map _

theorem times_add (h : History) (value takenAt : Nat) :
    (h.add value takenAt).times =
      takenAt :: if h.times.length ≥ h.capacity then h.times.dropLast else h.times := by
  have hadd : (h.add value takenAt).samples = ⟨value, takenAt⟩ ::
      if h.length ≥ h.capacity then h.samples.dropLast else h.samples := rfl
  rw [times, hadd, length_times]
  by_cases hfull : h.length ≥ h.capacity
  · rw [if_pos hfull, if_pos hfull, List.map_cons, List.map_dropLast, times]
  · rw [if_neg hfull, if_neg hfull, List.map_cons, times]

/-- Histories of one capacity that hold samples of the same times. -/
def Parallel (g h : History) : Prop := g.capacity = h.capacity ∧ g.times = h.times

variable {g h : History}

theorem Parallel.length_eq (hp : g.Parallel h) : g.length = h.length := by
  rw [← length_times g, ← length_times h, hp.2]

theorem Parallel.add (hp : g.Parallel h) (v w takenAt : Nat) :
    (g.add v takenAt).Parallel (h.add w takenAt) := by
  obtain ⟨hcapacity, htimes⟩ := hp
  refine ⟨?_, ?_⟩
  · rw [capacity_add, capacity_add, hcapacity]
  · rw [times_add, times_add, hcapacity, htimes]

end History

namespace Processor

@[simp] theorem history_new (number capacity : Nat) (k : CpuMetric) :
    (new number capacity).history k = .new capacity :=
  PerMetric.get_tabulate _ k

@[simp] theorem history_newTotal (capacity : Nat) (k : CpuMetric) :
    (newTotal capacity).history k = .new capacity :=
  PerMetric.get_tabulate _ k

@[simp] theorem history_record (p : Processor) (row : Proc.TickRow) (takenAt : Nat)
    (k : CpuMetric) :
    (p.record row takenAt).history k = (p.history k).add ((countersOf row).get k) takenAt :=
  PerMetric.get_tabulate _ k

/-- Records rows in order, all of them with one time. -/
def recordAll (rows : List Proc.TickRow) (takenAt : Nat) (p : Processor) : Processor :=
  rows.foldl (fun p row => p.record row takenAt) p

@[simp] theorem number_recordAll (rows : List Proc.TickRow) (takenAt : Nat) (p : Processor) :
    (p.recordAll rows takenAt).number = p.number := by
  induction rows generalizing p with
  | nil => rfl
  | cons row rest ih => exact ih (p.record row takenAt)

@[simp] theorem isTotal_recordAll (rows : List Proc.TickRow) (takenAt : Nat) (p : Processor) :
    (p.recordAll rows takenAt).isTotal = p.isTotal := by
  induction rows generalizing p with
  | nil => rfl
  | cons row rest ih => exact ih (p.record row takenAt)

theorem recordAll_append (rows more : List Proc.TickRow) (takenAt : Nat) (p : Processor) :
    p.recordAll (rows ++ more) takenAt = (p.recordAll rows takenAt).recordAll more takenAt :=
  List.foldl_append

/-! ## Alignment -/

/-- Every two histories of the processor are parallel. -/
def Aligned (p : Processor) : Prop := ∀ j k, (p.history j).Parallel (p.history k)

variable {p : Processor}

theorem aligned_new (number capacity : Nat) : (new number capacity).Aligned := by
  intro j k
  rw [history_new, history_new]
  exact ⟨rfl, rfl⟩

theorem aligned_newTotal (capacity : Nat) : (newTotal capacity).Aligned := by
  intro j k
  rw [history_newTotal, history_newTotal]
  exact ⟨rfl, rfl⟩

theorem Aligned.record (h : p.Aligned) (row : Proc.TickRow) (takenAt : Nat) :
    (p.record row takenAt).Aligned := by
  intro j k
  rw [history_record, history_record]
  exact (h j k).add _ _ takenAt

theorem Aligned.recordAll (h : p.Aligned) (rows : List Proc.TickRow) (takenAt : Nat) :
    (p.recordAll rows takenAt).Aligned := by
  induction rows generalizing p with
  | nil => exact h
  | cons row rest ih => exact ih (h.record row takenAt)

end Processor

end SystemMetrics
