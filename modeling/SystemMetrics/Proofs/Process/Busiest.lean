import SystemMetrics.Proofs.Process.Lookup
import SystemMetrics.Proofs.TotalOrder
import SystemMetrics.Report

/-!
# The busiest processes

The processes of a table have one ranking, by their shares of processor time and among equal shares
by their numbers. However many processes are asked for, they are the first of this ranking.
-/

namespace SystemMetrics

open ProcessTable (Ascending)

namespace ProcessEntry

/-- A larger share comes first in the ranking; of equal shares that of the smaller number does. -/
def Outranks (p q : ProcessEntry) : Prop :=
  Decimal.totalRank q.cpuPercent < Decimal.totalRank p.cpuPercent ∨
    q.cpuPercent = p.cpuPercent ∧ p.pid < q.pid

/-- Whether the share of `p` is at least that of `q`. -/
def isAsBusy (p q : ProcessEntry) : Bool :=
  Decimal.totalRank q.cpuPercent ≤ Decimal.totalRank p.cpuPercent

variable {p q : ProcessEntry} {ps : List ProcessEntry}

/-- What outranks has no smaller value. -/
theorem Outranks.not_lt (h : p.Outranks q) : ¬ p.cpuPercent < q.cpuPercent := by
  intro hlt
  have hrank := Decimal.totalRank_lt_of_lt hlt
  rcases h with h | ⟨heq, -⟩
  · omega
  · rw [heq] at hrank
    omega

theorem isAsBusy_trans (p q r : ProcessEntry) (h : p.isAsBusy q = true) (h' : q.isAsBusy r = true) :
    p.isAsBusy r = true := by
  simp only [isAsBusy, decide_eq_true_eq] at h h' ⊢
  omega

theorem isAsBusy_total (p q : ProcessEntry) : (p.isAsBusy q || q.isAsBusy p) = true := by
  simp only [isAsBusy, Bool.or_eq_true, decide_eq_true_eq]
  omega

theorem outranks_of_not_isAsBusy (h : (!p.isAsBusy q) = true) : q.Outranks p := by
  simp only [isAsBusy, Bool.not_eq_true', decide_eq_false_iff_not] at h
  exact .inl (by omega)

theorem outranks_of_isAsBusy (h : p.isAsBusy q = true) (hpid : p.pid < q.pid) : p.Outranks q := by
  rcases (of_decide_eq_true h).lt_or_eq with hlt | heq
  · exact .inl hlt
  · exact .inr ⟨Decimal.totalRank_inj heq, hpid⟩

/-! ## The ranking -/

/-- All processes of a list, the busiest first. -/
def ranking (ps : List ProcessEntry) : List ProcessEntry := ps.mergeSort isAsBusy

theorem ranking_perm (ps : List ProcessEntry) : (ranking ps).Perm ps := List.mergeSort_perm ps _

/-- Sorting by shares alone keeps processes with one share in the order of their numbers. -/
theorem ranking_outranks (h : Ascending ps) : (ranking ps).Pairwise Outranks := by
  induction ps with
  | nil =>
    rw [ranking, List.mergeSort_nil]
    exact .nil
  | cons p ps ih =>
    obtain ⟨hleast, hrest⟩ := List.pairwise_cons.mp h
    obtain ⟨before, after, hall, hothers, hbefore⟩ :=
      List.mergeSort_cons isAsBusy_trans isAsBusy_total p ps
    have hsorted := List.pairwise_mergeSort isAsBusy_trans isAsBusy_total (p :: ps)
    have hranked := ih hrest
    have hmem (q : ProcessEntry) (hq : q ∈ after) : q ∈ ps := by
      rw [← (ranking_perm ps).mem_iff, ranking, hothers]
      exact List.mem_append_right _ hq
    rw [ranking, hothers] at hranked
    rw [hall] at hsorted
    rw [ranking, hall]
    obtain ⟨hbefore', hafter', hacross⟩ := List.pairwise_append.mp hranked
    obtain ⟨-, hafter, -⟩ := List.pairwise_append.mp hsorted
    have hp : ∀ q ∈ after, p.Outranks q := fun q hq =>
      outranks_of_isAsBusy (List.rel_of_pairwise_cons hafter hq) (hleast q (hmem q hq))
    refine List.pairwise_append.mpr ⟨hbefore', List.pairwise_cons.mpr ⟨hp, hafter'⟩, ?_⟩
    intro q hq r hr
    rcases List.mem_cons.mp hr with rfl | hr
    · exact outranks_of_not_isAsBusy (hbefore q hq)
    · exact hacross q hq r hr

end ProcessEntry

/-! ## Rows -/

/-- The order of the rows of a report, by the figures that they show. -/
def ProcessRow.Outranks (a b : ProcessRow) : Prop :=
  Decimal.totalRank b.cpuPercent < Decimal.totalRank a.cpuPercent ∨
    b.cpuPercent = a.cpuPercent ∧ a.pid < b.pid

namespace ProcessEntry

variable {p q : ProcessEntry} {ps : List ProcessEntry}

theorem Outranks.ofEntry (h : p.Outranks q) :
    (ProcessRow.ofEntry p).Outranks (ProcessRow.ofEntry q) := h

theorem topProcesses_eq (ps : List ProcessEntry) (n : Nat) :
    topProcesses ps n = ((ranking ps).take n).map .ofEntry := by
  rw [topProcesses, ranking, List.map_take, List.map_mergeSort]
  exact fun p _ q _ => rfl

/-- A cut through the ranking of a list: what is kept has its order and comes before the rest. -/
structure Selects (ps kept left : List ProcessEntry) : Prop where
  perm : (kept ++ left).Perm ps
  ordered : kept.Pairwise Outranks
  ahead : ∀ p ∈ kept, ∀ q ∈ left, p.Outranks q

variable {kept left : List ProcessEntry}

theorem selects_ranking (h : Ascending ps) (n : Nat) :
    Selects ps ((ranking ps).take n) ((ranking ps).drop n) := by
  have hranked := ranking_outranks h
  have hperm := ranking_perm ps
  rw [← List.take_append_drop n (ranking ps)] at hranked hperm
  obtain ⟨hkept, -, hahead⟩ := List.pairwise_append.mp hranked
  exact ⟨hperm, hkept, hahead⟩

theorem Selects.nodup (h : Selects ps kept left) (hps : Ascending ps) :
    (kept.map (·.pid)).Nodup := by
  have hdistinct : (ps.map (·.pid)).Nodup := List.pairwise_map.mpr (hps.imp fun hlt => hlt.ne)
  rw [← (h.perm.map _).nodup_iff, List.map_append] at hdistinct
  exact hdistinct.of_append_left

/-- The rows are those of the first processes of the ranking, as many as are asked for and there
are; they show the numbers and the shares of these, and are in order by what they show. A process
that is left out comes after all of them, and its share has no larger value. -/
theorem busiest_selected (h : Ascending ps) (n : Nat) :
    ∃ kept left, Selects ps kept left ∧ topProcesses ps n = kept.map .ofEntry ∧
      kept.length = min n ps.length ∧ (kept.map (·.pid)).Nodup ∧
      kept.Pairwise (fun p q => ¬ p.cpuPercent < q.cpuPercent) ∧
      (∀ p ∈ kept, ∀ q ∈ left, ¬ p.cpuPercent < q.cpuPercent) ∧
      (topProcesses ps n).map (fun row => (row.pid, row.cpuPercent)) =
        kept.map (fun p => (p.pid, p.cpuPercent)) ∧
      (topProcesses ps n).Pairwise ProcessRow.Outranks ∧
      ∀ m, n ≤ m → topProcesses ps n = (topProcesses ps m).take n := by
  have hselects := selects_ranking h n
  refine ⟨_, _, hselects, topProcesses_eq ps n, ?_, hselects.nodup h,
    hselects.ordered.imp Outranks.not_lt, fun p hp q hq => (hselects.ahead p hp q hq).not_lt,
    ?_, ?_, fun m hle => ?_⟩
  · rw [List.length_take, (ranking_perm ps).length_eq]
  · rw [topProcesses_eq, List.map_map]
    rfl
  · rw [topProcesses_eq]
    exact List.pairwise_map.mpr (hselects.ordered.imp Outranks.ofEntry)
  · rw [topProcesses_eq, topProcesses_eq, ← List.map_take, List.take_take, Nat.min_eq_left hle]

/-- A process that spent some ticks in user mode within a second. -/
def tickedFor (ticks pid : Nat) : ProcessEntry where
  pid
  clockTicks := 100
  pageSize := 4096
  bootTime := 0
  stat := { pid }
  histories := .new 2
  timed := { realMs := 1000, userTicks := ticks }

/-- Two of the processes were idle, so that one of them is kept and the other is not. -/
def tied : List ProcessEntry := [tickedFor 0 3, tickedFor 50 5, tickedFor 0 9]

theorem busiest_selected_tied :
    Ascending tied ∧ topProcesses tied 2 = [.ofEntry (tickedFor 50 5), .ofEntry (tickedFor 0 3)] ∧
    ∃ kept left, Selects tied kept left ∧ topProcesses tied 2 = kept.map .ofEntry ∧
      kept.length = 2 := by
  have hascending : Ascending tied := by
    simp [Ascending, tied, tickedFor]
  obtain ⟨kept, left, hselects, hrows, hlength, -⟩ := busiest_selected hascending 2
  have hrows' : topProcesses tied 2 = [.ofEntry (tickedFor 50 5), .ofEntry (tickedFor 0 3)] := by
    have hidle : (tickedFor 0 3).isAsBusy (tickedFor 50 5) = false := by decide +kernel
    have hbusy : (tickedFor 50 5).isAsBusy (tickedFor 0 9) = true := by decide +kernel
    have htie : (tickedFor 0 3).isAsBusy (tickedFor 0 9) = true := by decide +kernel
    rw [topProcesses_eq, ranking, tied]
    simp [List.mergeSort, hidle, hbusy, htie]
  exact ⟨hascending, hrows', kept, left, hselects, hrows, hlength⟩

end ProcessEntry

end SystemMetrics
