import SystemMetrics.Daemon.Families
import SystemMetrics.Proofs.Cpu.Run
import SystemMetrics.Proofs.Network.Discovery
import SystemMetrics.Proofs.Process.Run

/-!
# Calls that fail

Each call on a family has a few questions to the system that it cannot do without, and asks them
before it changes anything. So a call that fails leaves everything as it was. The one exception is
a set of processors that has been reconciled by the time its rows turn out to be unreadable: it has
its new size, and no sample.
-/

namespace SystemMetrics

variable {σ : Type}

/-- If this answer is a failure, then what was kept beside it is `kept`. -/
def Intact {α β : Type} (kept : β) (answer : Except Fault α × β) : Prop :=
  ∀ fault, answer.1 = .error fault → answer.2 = kept

namespace Intact

variable {α β γ δ : Type} {kept : δ} {s : σ}

theorem ok {c : γ} {d : δ} : Intact kept ((.ok c, d) : Except Fault γ × δ) := nofun

theorem error {fault : Fault} : Intact kept ((.error fault, kept) : Except Fault γ × δ) :=
  fun _ _ => rfl

theorem congr {answer : Except Fault α × β} {before : β} (h : Intact before answer) (g : β → δ) :
    Intact (g before) (answer.1, g answer.2) :=
  fun fault hfault => congrArg g (h fault hfault)

theorem ask {x : Observing σ (Except Fault α)}
    {f : Except Fault α → Observing σ (Except Fault γ × δ)}
    (herror : ∀ fault s, Intact kept (f (.error fault) s).1)
    (hok : ∀ a s, Intact kept (f (.ok a) s).1) : Intact kept ((x >>= f) s).1 := by
  rw [Observing.bind_run]
  cases (x s).1 with
  | error fault => exact herror fault _
  | ok a => exact hok a _

/-- A step that leaves everything intact if it fails, and whose failure is handed on. -/
theorem bind {before : β} {x : Observing σ (Except Fault α × β)}
    {f : Except Fault α × β → Observing σ (Except Fault γ × δ)} (hx : Intact before (x s).1)
    (herror : ∀ fault s, Intact kept (f (.error fault, before) s).1)
    (hok : ∀ a b s, Intact kept (f (.ok a, b) s).1) : Intact kept ((x >>= f) s).1 := by
  rw [Observing.bind_run]
  generalize x s = outcome at hx ⊢
  obtain ⟨⟨_ | a, b⟩, s', events⟩ := outcome
  · obtain rfl : b = before := hx _ rfl
    exact herror _ s'
  · exact hok a b s'

end Intact

variable {probe : Probe (Observing σ)} {s : σ} {fault : Fault}

/-! ## Processors -/

namespace Processors

variable {ps : Processors}

theorem sample_intact (ps : Processors) : Intact ps (ps.sample probe s).1 :=
  .ask (fun _ _ => .error) fun _ _ => .ok

theorem update_failed (hnumbered : ps.Numbered) {sampleToo : Bool}
    (h : (ps.update probe sampleToo s).1.1 = .error fault) :
    (∃ e, (probe.processorsOnline s).1 = .error e) ∧ (ps.update probe sampleToo s).1.2 = ps ∨
    ∃ count, (probe.processorsOnline s).1 = .ok count ∧ sampleToo = true ∧
      (ps.update probe sampleToo s).1.2 = (ps.reconcile count).2 := by
  cases hcount : (probe.processorsOnline s).1 with
  | error e =>
    rw [update_error hcount]
    exact Or.inl ⟨⟨e, rfl⟩, rfl⟩
  | ok count =>
    rw [update_ok hnumbered hcount] at h ⊢
    cases sampleToo with
    | false => cases h
    -- The set has been reconciled by now, and it is this set that the sample leaves intact.
    | true => exact Or.inr ⟨count, rfl, rfl, sample_intact _ fault h⟩

theorem mem_reconcile (h : ps.Numbered) {count : Nat} {p : Processor}
    (hp : p ∈ (ps.reconcile count).2.members) :
    p ∈ ps.members ∨ ∃ n, p = .new n ps.cadence.history := by
  rw [reconcile_eq h] at hp
  rcases List.mem_append.mp hp with hp | hp
  · exact Or.inl (List.mem_of_mem_take hp)
  · obtain ⟨n, -, rfl⟩ := List.mem_map.mp hp
    exact Or.inr ⟨n, rfl⟩

end Processors

/-! ## Memory -/

namespace Memory

variable {mem : Memory}

theorem update_error (h : (probe.memInfo s).1 = .error fault) :
    (mem.update probe s).1 = (.error fault, mem) := by
  simp only [update, Observing.bind_run, h]
  rfl

/-- Missing keys make no difference to what an update leaves. -/
theorem update_ok {content : String} (h : (probe.memInfo s).1 = .ok content) :
    (mem.update probe s).1 =
      (.ok (), { mem with snapshot := .ofInfo (Proc.Meminfo.parse content) }) := by
  simp only [update, Observing.bind_run, h]
  split <;> rfl

theorem update_intact (mem : Memory) : Intact mem (mem.update probe s).1 := by
  cases hinfo : (probe.memInfo s).1 with
  | error e =>
    rw [update_error hinfo]
    exact .error
  | ok content =>
    rw [update_ok hinfo]
    exact .ok

theorem samplePaging_intact (mem : Memory) : Intact mem (mem.samplePaging probe s).1 := by
  have hpaging : Intact mem.paging (mem.paging.sample probe s).1 :=
    .ask (fun _ _ => .error) fun _ _ => .ok
  exact hpaging.congr fun paging => { mem with paging }

end Memory

/-! ## Processes -/

namespace ProcessTable

theorem refresh_intact (t : ProcessTable) : Intact t (t.refresh probe s).1 :=
  .ask (fun _ _ => .error) fun _ _ => .ok

theorem update_intact (timedToo : Bool) (t : ProcessTable) :
    Intact t (t.update probe timedToo s).1 :=
  (refresh_intact t).bind (fun _ _ => .error) fun _ _ _ => .ok

theorem sample_intact (t : ProcessTable) : Intact t (t.sample probe s).1 := by
  have hafter (now : Timestamp) (s : σ) : Intact t (t.sampleAt probe now s).1 :=
    (refresh_intact t).bind (fun _ _ => .error) fun _ _ _ => .ok
  exact hafter (probe.wallClock s).1 (probe.wallClock s).2.1

end ProcessTable

/-! ## Interfaces -/

theorem Interface.discover_intact (r : Registry) : Intact r (Interface.discover probe r s).1 :=
  .ask (fun _ _ => .error) fun _ _ => .ok

theorem Interface.refresh_intact (i : Interface) (r : Registry) :
    Intact (i, r) (i.refresh probe r s).1 :=
  (discover_intact r).bind (fun _ _ => .error) fun _ _ _ => .ok

namespace InterfaceTable

theorem update_intact (trackedOnly : Bool) (t : InterfaceTable) (r : Registry) :
    Intact (t, r) (t.update probe trackedOnly r s).1 :=
  (Interface.discover_intact r).bind (fun _ _ => .error) fun _ _ _ => .ok

theorem start_intact (t : InterfaceTable) (r : Registry) : Intact (t, r) (t.start probe r s).1 :=
  (update_intact false t r).bind (fun _ _ => .error) fun _ _ _ => .ok

end InterfaceTable

/-! ## All calls -/

/-- The families, and an interface that someone has taken out of their table. -/
structure Holdings where
  families : Families
  held : Interface

inductive Operation where
  | updateCpus (sampleToo : Bool)
  | sampleCpus
  | updateMemory
  | samplePaging
  | updateProcesses (timedToo : Bool)
  | sampleProcesses
  | startInterfaces
  | updateInterfaces (trackedOnly : Bool)
  | refreshHeld
  deriving DecidableEq, Repr

structure Call (σ : Type) where
  operation : Operation
  probe : Probe (Observing σ)
  system : σ

namespace Call

def run (c : Call σ) (x : Holdings) : Except Fault Unit × Holdings :=
  let f := x.families
  match c.operation with
  | .updateCpus sampleToo =>
    let (result, cpus) := (f.cpus.update c.probe sampleToo c.system).1
    (result, { x with families := { f with cpus } })
  | .sampleCpus =>
    let (result, cpus) := (f.cpus.sample c.probe c.system).1
    (result, { x with families := { f with cpus } })
  | .updateMemory =>
    let (result, memory) := (f.memory.update c.probe c.system).1
    (result, { x with families := { f with memory } })
  | .samplePaging =>
    let (result, memory) := (f.memory.samplePaging c.probe c.system).1
    (result, { x with families := { f with memory } })
  | .updateProcesses timedToo =>
    let (result, processes) := (f.processes.update c.probe timedToo c.system).1
    (result, { x with families := { f with processes } })
  | .sampleProcesses =>
    let (result, processes) := (f.processes.sample c.probe c.system).1
    (result, { x with families := { f with processes } })
  | .startInterfaces =>
    let (result, interfaces, registry) := (f.interfaces.start c.probe f.registry c.system).1
    (result, { x with families := { f with interfaces, registry } })
  | .updateInterfaces trackedOnly =>
    let (result, interfaces, registry) :=
      (f.interfaces.update c.probe trackedOnly f.registry c.system).1
    (result, { x with families := { f with interfaces, registry } })
  | .refreshHeld =>
    let (result, held, registry) := (x.held.refresh c.probe f.registry c.system).1
    (result, { families := { f with registry }, held })

/-- The number of processors online, as the system answers to an update of the processors. -/
def count (c : Call σ) : Except Fault Nat := (c.probe.processorsOnline c.system).1

variable {c : Call σ} {x : Holdings}

theorem run_failed (hnumbered : x.families.cpus.Numbered)
    (hoperation : c.operation ≠ .updateCpus true) (h : (c.run x).1 = .error fault) :
    (c.run x).2 = x := by
  obtain ⟨operation, probe, s⟩ := c
  simp only [run] at h ⊢
  cases operation with
  | updateCpus sampleToo =>
    -- Of these, only an update that is to sample can fail after it has changed something.
    rcases Processors.update_failed hnumbered h with ⟨-, hkept⟩ | ⟨-, -, rfl, -⟩
    · simp only [hkept]
    · exact absurd rfl hoperation
  | sampleCpus => simp only [Processors.sample_intact _ _ h]
  | updateMemory => simp only [Memory.update_intact _ _ h]
  | samplePaging => simp only [Memory.samplePaging_intact _ _ h]
  | updateProcesses timedToo => simp only [ProcessTable.update_intact _ _ _ h]
  | sampleProcesses => simp only [ProcessTable.sample_intact _ _ h]
  | startInterfaces => simp only [InterfaceTable.start_intact _ _ _ h]
  | updateInterfaces trackedOnly => simp only [InterfaceTable.update_intact _ _ _ _ h]
  | refreshHeld => simp only [Interface.refresh_intact _ _ _ h]

theorem run_updateCpus (hnumbered : x.families.cpus.Numbered) {count : Nat}
    (hoperation : c.operation = .updateCpus false) (hcount : c.count = .ok count) :
    c.run x = (.ok (),
      { x with families := { x.families with cpus := (x.families.cpus.reconcile count).2 } }) := by
  obtain ⟨operation, probe, s⟩ := c
  cases hoperation
  simp only [run, Processors.update_ok hnumbered hcount, Bool.false_eq_true, if_false]

/-- A call that fails leaves the families and the held interface as they were. If it was to update
and sample the processors, and their number was known, it leaves what an update without sampling
leaves wherever that number is online: the aggregate is as it was, and every processor is one of
those before or has no samples. -/
theorem failed_intact {cadence : Cadence} {online : Nat}
    (hreached : Processors.Run cadence online x.families.cpus) (h : (c.run x).1 = .error fault) :
    (c.operation ≠ .updateCpus true → (c.run x).2 = x) ∧
    (c.operation = .updateCpus true →
      (∃ e, c.count = .error e) ∧ (c.run x).2 = x ∨
      ∃ count, c.count = .ok count ∧
        (∀ (τ : Type) (d : Call τ), d.operation = .updateCpus false → d.count = .ok count →
          d.run x = (.ok (), (c.run x).2)) ∧
        (c.run x).2.families.cpus.total = x.families.cpus.total ∧
        ∀ p ∈ (c.run x).2.families.cpus.members,
          p ∈ x.families.cpus.members ∨ ∃ n, p = .new n cadence.history) := by
  have hnumbered := hreached.inOrder.numbered
  refine ⟨fun hoperation => run_failed hnumbered hoperation h, fun hoperation => ?_⟩
  obtain ⟨operation, probe, s⟩ := c
  cases hoperation
  simp only [run] at h ⊢
  rcases Processors.update_failed hnumbered h with ⟨hcount, hkept⟩ | ⟨count, hcount, -, hkept⟩
  · exact Or.inl ⟨hcount, by simp only [hkept]⟩
  · simp only [hkept]
    refine Or.inr ⟨count, hcount, fun τ d hd hd' => run_updateCpus hnumbered hd hd', ?_, ?_⟩
    · rw [Processors.reconcile_eq hnumbered]
    · rw [← hreached.inOrder.cadence_eq]
      exact fun p hp => Processors.mem_reconcile hnumbered hp

end Call

def Holdings.sampled : Holdings where
  families :=
    { cpus := Processors.shrunk
      memory := .new ⟨.ofSeconds 60, 2⟩
      processes := ProcessTable.sampledTwice }
  held := { name := "eth0" }

/-- A machine with four processors and nothing else. -/
def bareMachine (operation : Operation) : Call World :=
  ⟨operation, World.machine.probe "/proc", { settings := [(.processorsOnline, 4)] }⟩

/-- Without files, the processors that are back online join the set with no sample, and nothing
happens to the processes. -/
theorem Call.failed_intact_bare :
    (∃ fault, ((bareMachine (.updateCpus true)).run .sampled).1 = .error fault) ∧
    (∃ fault, ((bareMachine .sampleProcesses).run .sampled).1 = .error fault) ∧
    (bareMachine (.updateCpus false)).run .sampled =
      (.ok (), ((bareMachine (.updateCpus true)).run .sampled).2) ∧
    ((bareMachine .sampleProcesses).run .sampled).2 = .sampled := by
  have hreached : Processors.Run ⟨.ofSeconds 10, 7⟩ 2 Holdings.sampled.families.cpus :=
    ((Processors.Run.new.pass (Processors.machinePass 4)).pass (Processors.machinePass 2)).pass
      (Processors.machinePass (-1))
  have hcount (operation : Operation) : (bareMachine operation).count = .ok 4 := rfl
  have hupdate : ∃ fault, ((bareMachine (.updateCpus true)).run .sampled).1 = .error fault :=
    ⟨_, rfl⟩
  have hsample : ∃ fault, ((bareMachine .sampleProcesses).run .sampled).1 = .error fault :=
    ⟨_, rfl⟩
  refine ⟨hupdate, hsample, ?_, ?_⟩
  · obtain ⟨fault, h⟩ := hupdate
    rcases (failed_intact hreached h).2 rfl with ⟨⟨e, hunknown⟩, -⟩ | ⟨count, hknown, hsame, -⟩
    · rw [hcount] at hunknown
      cases hunknown
    · rw [hcount] at hknown
      cases hknown
      exact hsame World _ rfl (hcount _)
  · obtain ⟨fault, h⟩ := hsample
    exact (failed_intact hreached h).1 (by decide)

end SystemMetrics
