import SystemMetrics.Memory
import SystemMetrics.Proofs.Cpu.Members
import SystemMetrics.Proofs.Cpu.Ticks
import SystemMetrics.Proofs.Overlap.Interleaving
import SystemMetrics.Proofs.Process.Run

/-!
# Overlapping passes over the metrics

The passes over processors and paging read the counters before they lock what they record into, the
passes over processes only the wall clock. Reconciling and refreshing can come between any two
steps.
-/

namespace SystemMetrics

/-! ## Processors -/

theorem Processor.values_recordAll (rows : List Proc.TickRow) (takenAt : Nat) (p : Processor)
    (k : CpuMetric) :
    ((p.recordAll rows takenAt).history k).values.Sublist
      ((p.history k).values ++ rows.map fun row => (countersOf row).get k) := by
  induction rows generalizing p with
  | nil => exact List.sublist_append_left _ _
  | cons row rest ih =>
    have hrow := (p.history k).values_add_sublist ((countersOf row).get k) takenAt
    rw [← history_record] at hrow
    refine (ih (p.record row takenAt)).trans ?_
    rw [List.map_cons, List.append_cons]
    exact hrow.append_right _

namespace Processors

variable {σ : Type} {cadence : Cadence} {ps : Processors} {c : Schedule Reading}

/-- Reading and recording are the functions that a sampling pass calls one after the other. -/
def passes : TwoStep Processors Reading where
  Reads reading := ∃ (σ : Type) (probe : Probe (Observing σ)) (s : σ),
    (read probe s).1 = .ok reading
  Records reading ps ps' := ps' = (ps.record reading).1
  Moves ps ps' := ∃ count, ps' = (ps.reconcile count).2

/-- A sampling pass that nothing interrupts takes both steps, one after the other. -/
theorem interleaving_sample {initial ps' : Processors} {probe : Probe (Observing σ)} {s : σ}
    (h : Interleaving passes initial c ps) (hs : (ps.sample probe s).1 = (.ok (), ps')) :
    ∃ r, Interleaving passes initial ((c.read r).record (c.taken.length, r)) ps' := by
  rw [sample, Observing.bind_run] at hs
  cases hread : (read probe s).1 with
  | error fault =>
    rw [hread] at hs
    cases hs
  | ok reading =>
    rw [hread] at hs
    cases hs
    exact ⟨reading, h.pass ⟨σ, probe, s, hread⟩ rfl⟩

/-- The good rows of a line. -/
def goodRow? (line : List Char) : Option (Proc.CpuRow × Proc.TickRow) :=
  match Proc.CpuRow.parseChars? line with
  | some (.ok row) => some row
  | _ => none

/-- The good rows of a reading in order; columns that a short row lacks are zero. -/
def Reading.rows (reading : Reading) : List (Proc.CpuRow × Proc.TickRow) :=
  (Text.lines reading.content.toList).filterMap goodRow?

/-- The value of a counter on a row, if it is for `target`. -/
def valueFor? (target : Proc.CpuRow) (k : CpuMetric) (row : Proc.CpuRow × Proc.TickRow) :
    Option Nat :=
  if row.1 = target then some ((Processor.countersOf row.2).get k) else none

theorem valueFor?_eq_some {target : Proc.CpuRow} {k : CpuMetric} {row : Proc.CpuRow × Proc.TickRow}
    {v : Nat} :
    valueFor? target k row = some v ↔
      row.1 = target ∧ (Processor.countersOf row.2).get k = v := by
  simp [valueFor?]

def Reading.valuesOf (target : Proc.CpuRow) (k : CpuMetric) (reading : Reading) : List Nat :=
  reading.rows.filterMap (valueFor? target k)

theorem valuesOf_eq (target : Proc.CpuRow) (k : CpuMetric) (reading : Reading) :
    reading.valuesOf target k =
      (rowsOf target (Text.lines reading.content.toList)).map fun row =>
        (Processor.countersOf row).get k := by
  rw [Reading.valuesOf, Reading.rows, rowsOf, List.filterMap_filterMap, List.map_filterMap]
  refine congrArg (List.filterMap · _) (funext fun line => ?_)
  rw [goodRow?, rowOf?]
  cases Proc.CpuRow.parseChars? line with
  | none => rfl
  | some answer =>
    cases answer with
    | error e => rfl
    | ok row => by_cases h : row.1 = target <;> simp [h, valueFor?]

/-- Reconciling keeps a processor, removes it, or puts one without samples in its place. -/
theorem at?_reconcile (h : ps.Numbered) (count : Nat) (target : Proc.CpuRow) :
    at? target (ps.reconcile count).2 = at? target ps ∨
      ∀ p, at? target (ps.reconcile count).2 = some p →
        ∀ k, p.history k = .new ps.cadence.history := by
  cases target with
  | total =>
    rw [reconcile_eq h]
    exact Or.inl rfl
  | cpu number =>
    by_cases hkept : number < min ps.size count
    · exact Or.inl (getElem?_reconcile_of_lt h hkept)
    · refine Or.inr fun p hp k => ?_
      have hlt : number < count := by
        rw [← size_reconcile h count]
        exact (List.getElem?_eq_some_iff.mp hp).1
      rw [eq_new_of_getElem?_reconcile h (by omega) hp, Processor.history_new]

theorem feeds (cadence : Cadence) (target : Proc.CpuRow) (k : CpuMetric) :
    Feeds passes (new cadence) Numbered (Reading.valuesOf target k)
      (fun ps => (at? target ps).map (·.history k)) where
  start := by
    refine ⟨numbered_new cadence, ?_⟩
    cases target with
    | total => rw [at?, Option.map_some, new, Processor.history_newTotal]; rfl
    | cpu number => rfl
  record := by
    rintro reading ps _ hnumbered rfl
    refine ⟨record_eq hnumbered reading ▸ hnumbered.deal _ _, ?_⟩
    rw [at?_record hnumbered, valuesOf_eq]
    cases at? target ps with
    | none => exact List.nil_sublist _
    | some p => exact p.values_recordAll _ _ k
  move := by
    rintro ps _ hnumbered ⟨count, rfl⟩
    refine ⟨hnumbered.reconcile count, ?_⟩
    rcases at?_reconcile hnumbered count target with hkept | hfresh
    · simp only [hkept, List.Sublist.refl]
    · refine History.valuesIf_sublist fun _ hsome => ?_
      obtain ⟨p, hp, rfl⟩ := Option.map_eq_some_iff.mp hsome
      rw [hfresh p hp k]
      exact List.nil_sublist _

/-- Counters that grew while they were read fall in a history only where a pass was overtaken. -/
theorem explained (h : Interleaving passes (new cadence) c ps)
    (hgrow : (c.taken.flatMap Reading.rows).Pairwise fun older newer =>
      older.1 = newer.1 → older.2.Below newer.2)
    {target : Proc.CpuRow} {p : Processor} (hp : at? target ps = some p) (k : CpuMetric) :
    c.Explains (Reading.valuesOf target k) (p.history k).values := by
  refine (feeds cadence target k).explains h ?_ (by rw [hp]; rfl)
  have hvalues : c.taken.flatMap (Reading.valuesOf target k) =
      (c.taken.flatMap Reading.rows).filterMap (valueFor? target k) :=
    List.filterMap_flatMap.symm
  rw [hvalues, List.pairwise_filterMap]
  refine hgrow.imp fun hrow v hv w hw => ?_
  obtain ⟨holder, rfl⟩ := valueFor?_eq_some.mp hv
  obtain ⟨hnewer, rfl⟩ := valueFor?_eq_some.mp hw
  exact (hrow (holder.trans hnewer.symm)).countersOf_le k

end Processors

/-! ## Paging -/

namespace Paging

variable {σ : Type} {cadence : Cadence} {p : Paging} {c : Schedule Proc.PagingCounters}

def passes : TwoStep Paging Proc.PagingCounters where
  Reads counters := ∃ (σ : Type) (probe : Probe (Observing σ)) (s : σ),
    (read probe s).1 = .ok counters
  Records counters p p' := ∃ takenAt, p' = p.record counters takenAt
  Moves _ _ := False

theorem interleaving_sample {initial p' : Paging} {probe : Probe (Observing σ)} {s : σ}
    (h : Interleaving passes initial c p) (hs : (p.sample probe s).1 = (.ok (), p')) :
    ∃ r, Interleaving passes initial ((c.read r).record (c.taken.length, r)) p' := by
  rw [sample, Observing.bind_run] at hs
  cases hread : (read probe s).1 with
  | error fault =>
    rw [hread] at hs
    cases hs
  | ok counters =>
    rw [hread] at hs
    cases hs
    exact ⟨counters, h.pass ⟨σ, probe, s, hread⟩ ⟨_, rfl⟩⟩

theorem feeds (cadence : Cadence) {value : Proc.PagingCounters → Nat} {history : Paging → History}
    (hnew : history (new cadence) = .new cadence.history)
    (hrecord : ∀ p counters takenAt, history (p.record counters takenAt) =
      (history p).add (value counters) takenAt) :
    Feeds passes (new cadence) (fun _ => True) (fun counters => [value counters])
      (fun p => some (history p)) where
  start := ⟨trivial, by rw [hnew]; rfl⟩
  record := by
    rintro counters p _ - ⟨takenAt, rfl⟩
    refine ⟨trivial, ?_⟩
    rw [hrecord]
    exact (history p).values_add_sublist _ _
  move := fun _ hmove => hmove.elim

theorem explained (h : Interleaving passes (new cadence) c p)
    (hgrow : c.taken.Pairwise fun older newer =>
      older.pagesIn ≤ newer.pagesIn ∧ older.pagesOut ≤ newer.pagesOut) :
    c.Explains (fun counters => [counters.pagesIn]) p.reads.values ∧
      c.Explains (fun counters => [counters.pagesOut]) p.writes.values := by
  have hreads : Feeds passes (new cadence) _ (fun counters => [counters.pagesIn])
      (fun p => some p.reads) := feeds cadence rfl fun _ _ _ => rfl
  have hwrites : Feeds passes (new cadence) _ (fun counters => [counters.pagesOut])
      (fun p => some p.writes) := feeds cadence rfl fun _ _ _ => rfl
  exact ⟨hreads.explains_each h (hgrow.imp And.left) rfl,
    hwrites.explains_each h (hgrow.imp And.right) rfl⟩

end Paging

/-! ## Processes -/

namespace ProcessTable

variable {σ : Type} {cadence : Cadence} {t : ProcessTable} {c : Schedule Timestamp}

/-- A pass records what it reads while it refreshes the table; what it has read before is the wall
clock only. Every other pass refreshes the table too. -/
def passes : TwoStep ProcessTable Timestamp where
  Reads now := ∃ (σ : Type) (probe : Probe (Observing σ)) (s : σ), (probe.wallClock s).1 = now
  Records now t t' := ∃ (σ : Type) (probe : Probe (Observing σ)) (s : σ),
    (t.sampleAt probe now s).1 = (.ok (), t')
  Moves t t' := ∃ (σ : Type) (pass : Pass σ), pass.task ≠ .sample ∧ t' = (pass.run t).2

theorem interleaving_sample {initial t' : ProcessTable} {probe : Probe (Observing σ)} {s : σ}
    (h : Interleaving passes initial c t) (hs : (t.sample probe s).1 = (.ok (), t')) :
    ∃ r, Interleaving passes initial ((c.read r).record (c.taken.length, r)) t' :=
  ⟨_, h.pass ⟨σ, probe, s, rfl⟩ ⟨σ, probe, _, hs⟩⟩

theorem sampleAt_ok {probe : Probe (Observing σ)} {now : Timestamp} {s : σ} {t' : ProcessTable}
    (h : (t.sampleAt probe now s).1 = (.ok (), t')) :
    ∃ takenAt, t'.processes =
      (t.refresh probe s).1.2.processes.map (ProcessEntry.sample now takenAt) := by
  rw [sampleAt, Observing.bind_run] at h
  generalize t.refresh probe s = refreshed at h
  obtain ⟨⟨_ | _, t''⟩, s', log⟩ := refreshed
  · cases h
  · cases h
    exact ⟨_, rfl⟩

/-- The process under a number after a recording was sampled; it goes on from the one there before,
or has no samples but this one. -/
theorem find?_sampleAt {probe : Probe (Observing σ)} {now : Timestamp} {s : σ} {t' : ProcessTable}
    (h : (t.sampleAt probe now s).1 = (.ok (), t')) {pid : Nat} {p : ProcessEntry}
    (hp : t'.find? pid = some p) :
    ∃ q takenAt, p = q.sample now takenAt ∧ GoesOn t.cadence.history (t.find? pid) q := by
  obtain ⟨takenAt, hprocesses⟩ := sampleAt_ok h
  have hpid (q : ProcessEntry) : (q.sample now takenAt).pid = q.pid := rfl
  rw [find?, hprocesses, lookup_map pid hpid] at hp
  obtain ⟨q, hq, rfl⟩ := Option.map_eq_some_iff.mp hp
  exact ⟨q, takenAt, rfl, refresh_continues probe t s pid q hq⟩

/-- A pass that does not sample adds to no history. -/
theorem find?_run_unsampled {pass : Pass σ} (htask : pass.task ≠ .sample) {pid : Nat}
    {p : ProcessEntry} (hp : (pass.run t).2.find? pid = some p) :
    ∃ q, p.histories = q.histories ∧ GoesOn t.cadence.history (t.find? pid) q := by
  rw [pass.find?_run] at hp
  obtain ⟨q, hq, rfl⟩ := Option.map_eq_some_iff.mp hp
  refine ⟨q, ?_, pass.refreshed_continues t pid q hq⟩
  obtain ⟨task, probe, s⟩ := pass
  cases task with
  | sample => exact absurd rfl htask
  | start =>
    rw [Pass.effect]
    cases (Pass.refreshed ⟨.start, probe, s⟩ t).1.1 <;> rfl
  | update timedToo =>
    rw [Pass.effect]
    cases (Pass.refreshed ⟨.update timedToo, probe, s⟩ t).1.1 <;> cases timedToo <;> rfl

/-- A history of processes that holds the wall clock of sampling passes. -/
structure HoldsClock (history : ProcessHistories → History) : Prop where
  new : ∀ capacity, (history (.new capacity)).values = []
  sample : ∀ (p : ProcessEntry) now takenAt,
    (history (p.sample now takenAt).histories).values.Sublist
      ((history p.histories).values ++ [now.sinceEpoch])

theorem holdsClock_realMs : HoldsClock (·.realMs) where
  new := fun _ => rfl
  sample := by
    intro p now takenAt
    rw [ProcessEntry.sample]
    cases p.io <;> exact p.histories.realMs.values_add_sublist _ _

theorem holdsClock_ioRealMs : HoldsClock (·.ioRealMs) where
  new := fun _ => rfl
  sample := by
    intro p now takenAt
    rw [ProcessEntry.sample]
    cases p.io with
    | none => exact List.sublist_append_left _ _
    | some io => exact p.histories.ioRealMs.values_add_sublist _ _

def historyAt? (history : ProcessHistories → History) (pid : Nat) (t : ProcessTable) :
    Option History :=
  (t.find? pid).map fun p => history p.histories

theorem HoldsClock.goesOn {history : ProcessHistories → History} (hc : HoldsClock history)
    {pid capacity : Nat} {q : ProcessEntry} (h : GoesOn capacity (t.find? pid) q) :
    (history q.histories).values.Sublist (History.valuesIf (historyAt? history pid t)) := by
  rcases h with ⟨p, hp, -, htrail⟩ | hblank
  · rw [historyAt?, hp, show q.histories = p.histories from congrArg Trail.histories htrail]
    exact List.Sublist.refl _
  · rw [show q.histories = .new capacity from congrArg Trail.histories hblank, hc.new]
    exact List.nil_sublist _

theorem feeds (cadence : Cadence) {history : ProcessHistories → History}
    (hc : HoldsClock history) (pid : Nat) :
    Feeds passes (new cadence) (fun _ => True) (fun now => [now.sinceEpoch])
      (historyAt? history pid) where
  start := ⟨trivial, rfl⟩
  record := by
    rintro now t t' - ⟨σ, probe, s, hrecord⟩
    refine ⟨trivial, History.valuesIf_sublist fun _ hsome => ?_⟩
    obtain ⟨p, hp, rfl⟩ := Option.map_eq_some_iff.mp hsome
    obtain ⟨q, takenAt, rfl, hgoesOn⟩ := find?_sampleAt hrecord hp
    exact (hc.sample q now takenAt).trans ((hc.goesOn hgoesOn).append_right _)
  move := by
    rintro t _ - ⟨σ, pass, htask, rfl⟩
    refine ⟨trivial, History.valuesIf_sublist fun _ hsome => ?_⟩
    obtain ⟨p, hp, rfl⟩ := Option.map_eq_some_iff.mp hsome
    obtain ⟨q, hsame, hgoesOn⟩ := find?_run_unsampled htask hp
    rw [hsame]
    exact hc.goesOn hgoesOn

theorem explained (h : Interleaving passes (new cadence) c t)
    (hgrow : c.taken.Pairwise fun older newer : Timestamp =>
      older.milliseconds ≤ newer.milliseconds ∧ newer.milliseconds < Text.word64)
    {history : ProcessHistories → History} (hc : HoldsClock history) {pid : Nat} {p : ProcessEntry}
    (hp : t.find? pid = some p) :
    c.Explains (fun now => [now.sinceEpoch]) (history p.histories).values := by
  have hclock := hgrow.imp fun hle => Timestamp.sinceEpoch_le hle.1 hle.2
  exact (feeds cadence hc pid).explains_each h hclock (by rw [historyAt?, hp]; rfl)

end ProcessTable

end SystemMetrics
