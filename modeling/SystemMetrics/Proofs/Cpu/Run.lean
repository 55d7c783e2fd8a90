import SystemMetrics.Proofs.Cpu.Members
import SystemMetrics.Simulation.World

/-!
# Runs of passes over a set of processors

A pass reconciles the set with the processors online, or samples it, or does both; each pass meets a
system of its own, which answers as it likes. The set stays in order through every run of them.
-/

namespace SystemMetrics.Processors

variable {σ : Type} {cadence : Cadence} {online : Nat} {ps : Processors}

/-! ## Passes -/

inductive Task where
  | update (sampleToo : Bool)
  | sample
  deriving DecidableEq, Repr

/-- A pass, with the system that it meets. -/
structure Pass (σ : Type) where
  task : Task
  probe : Probe (Observing σ)
  system : σ

namespace Pass

def run (pass : Pass σ) (ps : Processors) : Except Fault Unit × Processors :=
  match pass.task with
  | .update sampleToo => (ps.update pass.probe sampleToo pass.system).1
  | .sample => (ps.sample pass.probe pass.system).1

/-- The number of processors online as it was last read, after a pass. -/
def lastCount (pass : Pass σ) (before : Nat) : Nat :=
  match pass.task with
  | .update _ => match (pass.probe.processorsOnline pass.system).1 with
    | .ok count => count
    | .error _ => before
  | .sample => before

/-- What the system answers to a pass. -/
def answer (pass : Pass σ) : Except Fault Unit :=
  match pass.task with
  | .update sampleToo => do
    let _ ← (pass.probe.processorsOnline pass.system).1
    if sampleToo then
      let _ ← (pass.probe.systemStat (pass.probe.processorsOnline pass.system).2.1).1
  | .sample => do
    let _ ← (pass.probe.systemStat pass.system).1

end Pass

/-! ## Invariant -/

/-- A set of the given cadence and size whose members are numbered and whose processors have aligned
histories. -/
structure InOrder (cadence : Cadence) (online : Nat) (ps : Processors) : Prop where
  cadence_eq : ps.cadence = cadence
  size_eq : ps.size = online
  numbered : ps.Numbered
  total_aligned : ps.total.Aligned
  members_aligned : ∀ p ∈ ps.members, p.Aligned

theorem inOrder_new (cadence : Cadence) : InOrder cadence 0 (new cadence) where
  cadence_eq := rfl
  size_eq := rfl
  numbered := numbered_new cadence
  total_aligned := Processor.aligned_newTotal cadence.history
  members_aligned := fun _ hp => nomatch hp

theorem InOrder.reconcile (h : InOrder cadence online ps) (count : Nat) :
    InOrder cadence count (ps.reconcile count).2 := by
  refine ⟨?_, size_reconcile h.numbered count, h.numbered.reconcile count, ?_, ?_⟩
  · rw [reconcile_eq h.numbered]
    exact h.cadence_eq
  · rw [reconcile_eq h.numbered]
    exact h.total_aligned
  · rw [reconcile_eq h.numbered]
    intro p hp
    rcases List.mem_append.mp hp with hp | hp
    · exact h.members_aligned p (List.mem_of_mem_take hp)
    · obtain ⟨n, _, rfl⟩ := List.mem_map.mp hp
      exact Processor.aligned_new n ps.cadence.history

theorem InOrder.deal (h : InOrder cadence online ps) (takenAt : Nat) (lines : List (List Char)) :
    InOrder cadence online (ps.deal takenAt lines) where
  cadence_eq := h.cadence_eq
  size_eq := (List.length_map _).trans h.size_eq
  numbered := h.numbered.deal takenAt lines
  total_aligned := h.total_aligned.recordAll _ takenAt
  members_aligned := by
    intro p hp
    obtain ⟨q, hq, rfl⟩ := List.mem_map.mp hp
    exact (h.members_aligned q hq).recordAll _ takenAt

theorem sample_ok {probe : Probe (Observing σ)} {s : σ} {content : String} (h : ps.Numbered)
    (hstat : (probe.systemStat s).1 = .ok content) :
    (ps.sample probe s).1 = (.ok (),
      ps.deal (probe.monotonicClock (probe.systemStat s).2.1).1 (Text.lines content.toList)) := by
  rw [← record_eq h ⟨content, _⟩]
  simp only [sample, read, Observing.bind_run, hstat]
  rfl

theorem sample_error {probe : Probe (Observing σ)} {s : σ} {fault : Fault}
    (hstat : (probe.systemStat s).1 = .error fault) :
    (ps.sample probe s).1 = (.error fault, ps) := by
  simp only [sample, read, Observing.bind_run, hstat]
  rfl

theorem InOrder.sample (h : InOrder cadence online ps) (probe : Probe (Observing σ)) (s : σ) :
    InOrder cadence online (ps.sample probe s).1.2 := by
  cases hstat : (probe.systemStat s).1 with
  | error fault =>
    rw [sample_error hstat]
    exact h
  | ok content =>
    rw [sample_ok h.numbered hstat]
    exact h.deal _ _

theorem sample_answer (h : ps.Numbered) (probe : Probe (Observing σ)) (s : σ) :
    (ps.sample probe s).1.1 = (do let _ ← (probe.systemStat s).1) := by
  cases hstat : (probe.systemStat s).1 with
  | error fault =>
    rw [sample_error hstat]
    rfl
  | ok content =>
    rw [sample_ok h hstat]
    rfl

/-! ## Steps -/

variable {probe : Probe (Observing σ)} {s : σ}

theorem update_error {fault : Fault} (hcount : (probe.processorsOnline s).1 = .error fault)
    (sampleToo : Bool) : (ps.update probe sampleToo s).1 = (.error fault, ps) := by
  simp only [update, Observing.bind_run, hcount]
  rfl

/-- An update reconciles the set, which cannot fail, before it samples. -/
theorem update_ok {count : Nat} (h : ps.Numbered)
    (hcount : (probe.processorsOnline s).1 = .ok count) (sampleToo : Bool) :
    (ps.update probe sampleToo s).1 =
      if sampleToo then ((ps.reconcile count).2.sample probe (probe.processorsOnline s).2.1).1
      else (.ok (), (ps.reconcile count).2) := by
  simp only [update, Observing.bind_run, hcount, reconcile_eq h]
  cases sampleToo <;> rfl

theorem InOrder.run (h : InOrder cadence online ps) (pass : Pass σ) :
    InOrder cadence (pass.lastCount online) (pass.run ps).2 := by
  obtain ⟨task, probe, s⟩ := pass
  cases task with
  | sample => exact h.sample probe s
  | update sampleToo =>
    simp only [Pass.run, Pass.lastCount]
    cases hcount : (probe.processorsOnline s).1 with
    | error fault =>
      rw [update_error hcount]
      exact h
    | ok count =>
      rw [update_ok h.numbered hcount]
      cases sampleToo with
      | false => exact h.reconcile count
      | true => exact (h.reconcile count).sample probe _

/-- A pass over a numbered set fails where the system fails, with the same fault, and nowhere
else. -/
theorem Pass.run_answer (h : ps.Numbered) (pass : Pass σ) : (pass.run ps).1 = pass.answer := by
  obtain ⟨task, probe, s⟩ := pass
  cases task with
  | sample => exact sample_answer h probe s
  | update sampleToo =>
    simp only [Pass.run, Pass.answer]
    cases hcount : (probe.processorsOnline s).1 with
    | error fault =>
      rw [update_error hcount]
      rfl
    | ok count =>
      rw [update_ok h hcount]
      cases sampleToo with
      | false => rfl
      | true => exact sample_answer (h.reconcile count) probe _

/-! ## Runs -/

/-- The sets that passes lead to, with the number of processors online as it was last read; it is
zero before the first reading. -/
inductive Run (cadence : Cadence) : Nat → Processors → Prop
  | new : Run cadence 0 (new cadence)
  | pass {σ : Type} {online : Nat} {ps : Processors} (h : Run cadence online ps) (pass : Pass σ) :
      Run cadence (pass.lastCount online) (pass.run ps).2

theorem Run.inOrder (h : Run cadence online ps) : InOrder cadence online ps := by
  induction h with
  | new => exact inOrder_new cadence
  | pass _ pass ih => exact ih.run pass

/-- What the first set has, and reconciling and recording keep, every set of a run has. -/
theorem Run.preserves {P : Processors → Prop} (h : Run cadence online ps)
    (hnew : P (Processors.new cadence))
    (hreconcile : ∀ {online ps} (count : Nat), InOrder cadence online ps → P ps →
      P (ps.reconcile count).2)
    (hdeal : ∀ {ps} (takenAt : Nat) (lines : List (List Char)), P ps → P (ps.deal takenAt lines)) :
    P ps := by
  have hsample {τ : Type} {online : Nat} {ps : Processors} (probe : Probe (Observing τ)) (s : τ)
      (horder : InOrder cadence online ps) (hps : P ps) : P (ps.sample probe s).1.2 := by
    cases hstat : (probe.systemStat s).1 with
    | error fault =>
      rw [sample_error hstat]
      exact hps
    | ok content =>
      rw [sample_ok horder.numbered hstat]
      exact hdeal _ _ hps
  induction h with
  | new => exact hnew
  | @pass τ online ps hrun pass ih =>
    have horder := hrun.inOrder
    obtain ⟨task, probe, s⟩ := pass
    cases task with
    | sample => exact hsample probe s horder ih
    | update sampleToo =>
      simp only [Pass.run]
      cases hcount : (probe.processorsOnline s).1 with
      | error fault =>
        rw [update_error hcount]
        exact ih
      | ok count =>
        rw [update_ok horder.numbered hcount]
        cases sampleToo with
        | false => exact hreconcile count horder ih
        | true => exact hsample probe _ (horder.reconcile count) (hreconcile count horder ih)

/-- After every run the set has as many members as processors were last seen online, each at the
index that is its number, and all histories of a processor are of one length and of the same times.
The next pass fails only where the system does. Reconciling with any number of processors succeeds,
leaves the aggregate and the members that stay as they are, and adds members without samples. -/
theorem Run.members_kept (h : Run cadence online ps) :
    ps.size = online ∧
    (∀ (i : Nat) (p : Processor), ps.members[i]? = some p → p.number = i) ∧
    (∀ p ∈ ps.total :: ps.members, ∀ j k,
      (p.history j).length = (p.history k).length ∧ (p.history j).times = (p.history k).times) ∧
    (∀ (σ : Type) (pass : Pass σ), (pass.run ps).1 = pass.answer) ∧
    ∀ count, (ps.reconcile count).1 = .ok () ∧
      (ps.reconcile count).2.size = count ∧
      (ps.reconcile count).2.total = ps.total ∧
      (∀ i : Nat, i < min ps.size count → (ps.reconcile count).2.members[i]? = ps.members[i]?) ∧
      ∀ (i : Nat) (p : Processor), ps.size ≤ i → (ps.reconcile count).2.members[i]? = some p →
        p.number = i ∧ ∀ k, p.history k = .new cadence.history := by
  obtain ⟨hcadence, hsize, hnumbered, htotal, hmembers⟩ := h.inOrder
  refine ⟨hsize, fun i p => hnumbered.number_eq, ?_, fun σ pass => pass.run_answer hnumbered,
    fun count => ?_⟩
  · intro p hp j k
    have haligned : p.Aligned := by
      rcases List.mem_cons.mp hp with rfl | hp
      · exact htotal
      · exact hmembers p hp
    exact ⟨(haligned j k).length_eq, (haligned j k).2⟩
  · refine ⟨?_, size_reconcile hnumbered count, ?_, fun i => getElem?_reconcile_of_lt hnumbered,
      fun i p hi hp => ?_⟩
    · rw [reconcile_eq hnumbered]
    · rw [reconcile_eq hnumbered]
    · rw [eq_new_of_getElem?_reconcile hnumbered hi hp, hcadence]
      exact ⟨rfl, fun k => Processor.history_new i cadence.history k⟩

/-- A machine with so many processors online and rows for the aggregate and two of them. -/
def twoRows (online : Int) : World :=
  let stat := "cpu  8 0 0 8\ncpu0 3 0 0 4\ncpu3 5 0 0 4\n"
  { settings := [(.processorsOnline, online)]
    storage := .memory (({} : MemoryTree).addFile (.ofText "/proc/stat") stat) }

def machinePass (online : Int) : Pass World :=
  ⟨.update true, World.machine.probe "/proc", twoRows online⟩

/-- A set that has grown to four processors, lost two of them, and could not count them again. -/
def shrunk : Processors :=
  ((machinePass (-1)).run ((machinePass 2).run ((machinePass 4).run
    (new ⟨.ofSeconds 10, 7⟩)).2).2).2

/-- The processors that come back have no samples, although one of them had. -/
theorem members_kept_regrown :
    Run ⟨.ofSeconds 10, 7⟩ 2 shrunk ∧
    shrunk.members.map (fun p => (p.history .user).values) = [[3, 3], []] ∧
    (∀ i < 2, (shrunk.reconcile 4).2.members[i]? = shrunk.members[i]?) ∧
    ∀ i p, 2 ≤ i → (shrunk.reconcile 4).2.members[i]? = some p →
      p.number = i ∧ ∀ k, p.history k = .new 7 := by
  have hrun : Run ⟨.ofSeconds 10, 7⟩ 2 shrunk :=
    ((Run.new.pass (machinePass 4)).pass (machinePass 2)).pass (machinePass (-1))
  obtain ⟨hsize, _, _, _, hreconcile⟩ := hrun.members_kept
  obtain ⟨_, _, _, hkept, hfresh⟩ := hreconcile 4
  rw [hsize] at hkept hfresh
  exact ⟨hrun, by decide +kernel, hkept, hfresh⟩

end SystemMetrics.Processors
