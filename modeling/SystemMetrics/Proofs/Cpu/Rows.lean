import Mathlib.Logic.Relation
import SystemMetrics.Proofs.Cpu.Run
import SystemMetrics.Proofs.Cpu.Ticks
import SystemMetrics.Proofs.Windows

/-!
# The rows of a pass

A sampling pass gives every processor the good rows that name it, in order and with one time, and
looks at nothing else in the text. Two texts that have the same rows for every processor of a set
are therefore the same to it, whatever stands between the rows.
-/

namespace SystemMetrics

namespace Proc

/-- What a row gives to each counter: its columns, and their sum up to the largest 64-bit number. -/
def TickRow.counters (t : TickRow) : PerMetric Nat :=
  ⟨t.user, t.nice, t.system, t.idle, t.iowait, t.irq, t.softirq, min t.sum (2 ^ 64 - 1)⟩

theorem TickRow.countersOf_eq (t : TickRow) : Processor.countersOf t = t.counters := by
  rw [Processor.countersOf, TickRow.total_eq]
  rfl

end Proc

/-! ## Recording several rows -/

namespace Processor

variable {capacity : Nat} {rows : List Recorded} {p : Processor}

theorem Fed.recordAll (h : Fed capacity rows p) (new : List Proc.TickRow) (takenAt : Nat) :
    Fed capacity ((new.map (Recorded.mk · takenAt)).reverse ++ rows) (p.recordAll new takenAt) := by
  induction new generalizing rows p with
  | nil => exact h
  | cons row rest ih =>
    rw [List.map_cons, List.reverse_cons, List.append_assoc]
    exact ih (h.record row takenAt)

theorem Fed.retained_eq (h : Fed capacity rows p) (k : CpuMetric) :
    (p.history k).retained =
      (rows.reverse.map fun r => ⟨(countersOf r.row).get k, r.takenAt⟩).rtake (max capacity 1) := by
  refine History.Retains.retained_eq ?_
  rw [List.map_reverse, List.reverse_reverse]
  exact h.retains k

theorem Fed.retained_recordAll (h : Fed capacity rows p) (new : List Proc.TickRow) (takenAt : Nat)
    (k : CpuMetric) :
    ((p.recordAll new takenAt).history k).retained =
      ((p.history k).retained ++ new.map fun row => Sample.mk (row.counters.get k) takenAt).rtake
        (max capacity 1) := by
  rw [(h.recordAll new takenAt).retained_eq, h.retained_eq, History.rtake_rtake_append,
    List.reverse_append, List.reverse_reverse, List.map_append, List.map_map]
  simp only [Proc.TickRow.countersOf_eq, Function.comp_def]

theorem Fed.capacity_eq (h : Fed capacity rows p) (k : CpuMetric) :
    (p.history k).capacity = max capacity 1 :=
  (h.retains k).capacity_eq

end Processor

namespace Processors

open Proc

variable {σ : Type} {cadence : Cadence} {online size takenAt : Nat} {ps : Processors}
  {target : CpuRow} {line : List Char} {lines lines' : List (List Char)}

/-- Whatever passes a set has gone through, only rows have fed its processors. -/
theorem Run.fed (h : Run cadence online ps) :
    ∀ p ∈ ps.total :: ps.members, ∃ rows, p.Fed cadence.history rows := by
  refine h.preserves
    (P := fun ps => ∀ p ∈ ps.total :: ps.members, ∃ rows, p.Fed cadence.history rows)
    ?_ (fun count horder ih => ?_) (fun takenAt lines ih => ?_)
  · rintro p (_ | ⟨_, ⟨⟩⟩)
    exact ⟨[], .newTotal⟩
  · rw [reconcile_eq horder.numbered]
    intro p hp
    rcases List.mem_cons.mp hp with rfl | hp
    · exact ih _ List.mem_cons_self
    · rcases List.mem_append.mp hp with hp | hp
      · exact ih p (List.mem_cons_of_mem _ (List.mem_of_mem_take hp))
      · obtain ⟨n, _, rfl⟩ := List.mem_map.mp hp
        rw [horder.cadence_eq]
        exact ⟨[], .new n⟩
  · intro p hp
    rcases List.mem_cons.mp hp with rfl | hp
    · obtain ⟨rows, hfed⟩ := ih _ List.mem_cons_self
      exact ⟨_, hfed.recordAll _ takenAt⟩
    · obtain ⟨q, hq, rfl⟩ := List.mem_map.mp hp
      obtain ⟨rows, hfed⟩ := ih q (List.mem_cons_of_mem _ hq)
      exact ⟨_, hfed.recordAll _ takenAt⟩

theorem mem_of_at? {p : Processor} (h : at? target ps = some p) : p ∈ ps.total :: ps.members := by
  cases target with
  | total =>
    cases h
    exact List.mem_cons_self
  | cpu number => exact List.mem_cons_of_mem _ (List.mem_of_getElem? h)

/-! ## Texts that are the same to a set -/

def Tracked (size : Nat) : CpuRow → Prop
  | .total => True
  | .cpu number => number < size

/-- A line that no processor of a set of this size can use. -/
inductive Stray (size : Nat) (line : List Char) : Prop
  | other (h : CpuRow.parseChars? line = none)
  | malformed (e : ParseError) (h : CpuRow.parseChars? line = some (.error e))
  | untracked (number : Nat) (row : TickRow) (hle : size ≤ number)
      (h : CpuRow.parseChars? line = some (.ok (.cpu number, row)))

/-- One step of a rearrangement: a stray line comes in, or two neighbours that are rows of different
targets change places. -/
inductive Rearranges (size : Nat) : List (List Char) → List (List Char) → Prop
  | insert (front back : List (List Char)) {line : List Char} (h : Stray size line) :
      Rearranges size (front ++ back) (front ++ line :: back)
  | swap (front back : List (List Char)) {line line' : List Char} {target target' : CpuRow}
      {row row' : TickRow} (h : CpuRow.parseChars? line = some (.ok (target, row)))
      (h' : CpuRow.parseChars? line' = some (.ok (target', row'))) (hne : target ≠ target') :
      Rearranges size (front ++ line :: line' :: back) (front ++ line' :: line :: back)

theorem Stray.rowOf?_eq (h : Stray size line) (ht : Tracked size target) :
    rowOf? target line = none := by
  cases h with
  | other h => rw [rowOf?, h]
  | malformed e h => rw [rowOf?, h]
  | untracked number row hle h =>
    rw [rowOf?, h]
    refine if_neg ?_
    rintro rfl
    exact Nat.not_lt.mpr hle ht

theorem rowOf?_of_ne {target' : CpuRow} {row : TickRow}
    (h : CpuRow.parseChars? line = some (.ok (target', row))) (hne : target' ≠ target) :
    rowOf? target line = none := by
  rw [rowOf?, h]
  exact if_neg hne

theorem Rearranges.rowsOf_eq (h : Rearranges size lines lines') (ht : Tracked size target) :
    rowsOf target lines = rowsOf target lines' := by
  cases h with
  | insert front back h =>
    rw [rowsOf, rowsOf, List.filterMap_append, List.filterMap_append,
      List.filterMap_cons_none (h.rowOf?_eq ht)]
  | @swap front back line line' found found' row row' h h' hne =>
    rw [rowsOf, rowsOf, List.filterMap_append, List.filterMap_append]
    -- The target gets a row from one of the two lines at most.
    by_cases hfound : found = target
    · have hnone := rowOf?_of_ne h' (hfound ▸ hne.symm)
      rw [List.filterMap_cons, List.filterMap_cons_none hnone, List.filterMap_cons_none hnone,
        List.filterMap_cons]
    · have hnone := rowOf?_of_ne h hfound
      rw [List.filterMap_cons_none hnone, List.filterMap_cons, List.filterMap_cons,
        List.filterMap_cons_none hnone]

theorem rowsOf_eq_of_rearranged (h : Relation.EqvGen (Rearranges size) lines lines')
    (ht : Tracked size target) : rowsOf target lines = rowsOf target lines' := by
  induction h with
  | rel _ _ h => exact h.rowsOf_eq ht
  | refl _ => rfl
  | symm _ _ _ ih => exact ih.symm
  | trans _ _ _ _ _ ih ih' => exact ih.trans ih'

theorem Numbered.tracked (h : ps.Numbered) {p : Processor} (hp : p ∈ ps.members) :
    Tracked ps.size (.cpu p.number) := by
  have hnumber := List.mem_map_of_mem hp (f := (·.number))
  rw [h] at hnumber
  exact List.mem_range.mp hnumber

theorem Numbered.deal_congr (h : ps.Numbered)
    (hrows : ∀ target, Tracked ps.size target → rowsOf target lines = rowsOf target lines') :
    ps.deal takenAt lines = ps.deal takenAt lines' := by
  have hmembers : ps.members.map (fun p => p.recordAll (rowsOf (.cpu p.number) lines) takenAt) =
      ps.members.map fun p => p.recordAll (rowsOf (.cpu p.number) lines') takenAt :=
    List.map_congr_left fun p hp => by rw [hrows _ (h.tracked hp)]
  rw [Processors.deal, Processors.deal, hmembers, hrows .total trivial]

/-! ## A pass -/

/-- A pass that can read its text appends to every processor one sample per counter for each good
row that names it, in the order of the text and all with the time of the pass, and changes nothing
else. Lines that are no rows, rows that are malformed and rows of processors outside the set can
stand anywhere, and rows of different processors in any order: the set after the pass is the
same. -/
theorem Run.rows_dealt {probe : Probe (Observing σ)} {s : σ} {content : String}
    (h : Run cadence online ps) (hstat : (probe.systemStat s).1 = .ok content) :
    let takenAt := (probe.monotonicClock (probe.systemStat s).2.1).1
    let lines := Text.lines content.toList
    ∃ after, (ps.sample probe s).1 = (.ok (), after) ∧
      after.cadence = ps.cadence ∧ after.size = ps.size ∧
      (∀ target p, at? target ps = some p → ∃ q, at? target after = some q ∧
        q.number = p.number ∧ q.isTotal = p.isTotal ∧
        (∀ n, target = .cpu n → q.number = n) ∧
        ∀ k, (q.history k).capacity = (p.history k).capacity ∧
          (q.history k).retained =
            ((p.history k).retained ++
              (rowsOf target lines).map fun row => Sample.mk (row.counters.get k) takenAt).rtake
                (max cadence.history 1)) ∧
      ∀ {τ : Type} (probe' : Probe (Observing τ)) (s' : τ) (content' : String),
        (probe'.systemStat s').1 = .ok content' →
        (probe'.monotonicClock (probe'.systemStat s').2.1).1 = takenAt →
        Relation.EqvGen (Rearranges ps.size) lines (Text.lines content'.toList) →
        (ps.sample probe' s').1 = (.ok (), after) := by
  intro takenAt lines
  have hnumbered := h.inOrder.numbered
  refine ⟨ps.deal takenAt lines, sample_ok hnumbered hstat, rfl, List.length_map _, ?_, ?_⟩
  · intro target p hp
    obtain ⟨rows, hfed⟩ := h.fed p (mem_of_at? hp)
    refine ⟨p.recordAll (rowsOf target lines) takenAt, ?_, Processor.number_recordAll ..,
      Processor.isTotal_recordAll .., ?_, fun k => ⟨?_, hfed.retained_recordAll _ takenAt k⟩⟩
    · rw [at?_deal hnumbered, hp]
      rfl
    · rintro n rfl
      rw [Processor.number_recordAll]
      exact hnumbered.number_eq hp
    · rw [(hfed.recordAll _ takenAt).capacity_eq, hfed.capacity_eq]
  · intro τ probe' s' content' hstat' htime hrearranged
    rw [sample_ok hnumbered hstat', htime]
    exact congrArg (Prod.mk _) (hnumbered.deal_congr fun target ht =>
      (rowsOf_eq_of_rearranged hrearranged ht).symm)

/-- A machine with two processors and this text as its `stat`. -/
def statOnly (stat : String) : World :=
  { settings := [(.processorsOnline, 2)]
    storage := .memory (({} : MemoryTree).addFile (.ofText "/proc/stat") stat) }

/-- A set of two processors with room for two samples, after one pass. -/
def sampledOnce : Processors := ((machinePass 2).run (new ⟨.ofSeconds 10, 2⟩)).2

def scattered : String :=
  "cpu0 3 0 0 4\nintr 5\ncpu9 1 1 1 1\ncpu1 3 x 0 0\ncpu1 2 0 0 4\ncpu0 4 0 0 5\ncpu 8 0 0 8\n"

def gathered : String := "cpu0 3 0 0 4\ncpu0 4 0 0 5\ncpu1 2 0 0 4\ncpu 8 0 0 8\n"

theorem gathered_scattered :
    Relation.EqvGen (Rearranges 2) (Text.lines gathered.toList) (Text.lines scattered.toList) := by
  let start := ["cpu0 3 0 0 4".toList]
  let rows := ["cpu1 2 0 0 4".toList, "cpu0 4 0 0 5".toList, "cpu 8 0 0 8".toList]
  let longer := "cpu1 3 x 0 0".toList :: rows
  let longest := "cpu9 1 1 1 1".toList :: longer
  have hswap : Rearranges 2 (Text.lines gathered.toList) (start ++ rows) :=
    .swap start ["cpu 8 0 0 8".toList] rfl rfl (by decide)
  have hmalformed : Rearranges 2 (start ++ rows) (start ++ longer) :=
    .insert start rows (.malformed _ rfl)
  have huntracked : Rearranges 2 (start ++ longer) (start ++ longest) :=
    .insert start longer (.untracked 9 _ (by decide) rfl)
  have hother : Rearranges 2 (start ++ longest) (Text.lines scattered.toList) :=
    .insert start longest (.other rfl)
  exact .trans _ _ _ (.rel _ _ hswap) (.trans _ _ _ (.rel _ _ hmalformed)
    (.trans _ _ _ (.rel _ _ huntracked) (.rel _ _ hother)))

/-- Between two rows of `cpu0` stand all the lines that no processor can use, and a row of `cpu1`. -/
theorem rows_dealt_scattered :
    let probe := World.machine.probe "/proc"
    Run ⟨.ofSeconds 10, 2⟩ 2 sampledOnce ∧
    (probe.systemStat (statOnly scattered)).1 = .ok scattered ∧
    ∃ after, (sampledOnce.sample probe (statOnly scattered)).1 = (.ok (), after) ∧
      (∃ q, at? (.cpu 0) after = some q ∧
        ((q.history .idle).retained.map (·.value)) = [4, 5]) ∧
      (sampledOnce.sample probe (statOnly gathered)).1 = (.ok (), after) := by
  intro probe
  have hrun : Run ⟨.ofSeconds 10, 2⟩ 2 sampledOnce := Run.new.pass (machinePass 2)
  have hstat : (probe.systemStat (statOnly scattered)).1 = .ok scattered := by decide +kernel
  have hstat' : (probe.systemStat (statOnly gathered)).1 = .ok gathered := by decide +kernel
  obtain ⟨after, hsample, -, -, hdealt, hrearranged⟩ := hrun.rows_dealt hstat
  refine ⟨hrun, hstat, after, hsample, ?_, ?_⟩
  · obtain ⟨q, hq, -, -, -, hretained⟩ := hdealt (.cpu 0) _ rfl
    refine ⟨q, hq, ?_⟩
    rw [(hretained .idle).2]
    decide +kernel
  · exact hrearranged probe (statOnly gathered) gathered hstat' rfl
      (.symm _ _ gathered_scattered)

end Processors

end SystemMetrics
