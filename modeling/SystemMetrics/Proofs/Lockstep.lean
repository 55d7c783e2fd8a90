import SystemMetrics.Machine
import SystemMetrics.Memory
import SystemMetrics.Network.Table
import SystemMetrics.Proofs.Process.Refresh

/-!
# Computations in lockstep

An operation asks its questions through a probe and knows nothing else of the system. So a relation
between computations of two monads that is closed under `pure` and `bind` holds of an operation over
two probes as soon as it holds of the questions. What is proved here once, for any such relation,
gives what an operation answers on a view, what it keeps of a system, and what it has in common over
two systems.
-/

namespace SystemMetrics

/-- A relation between computations of two monads, with a closure clause for each combinator. -/
structure Lockstep (m n : Type → Type) [Monad m] [Monad n] where
  Matches {α : Type} : m α → n α → Prop
  pure {α : Type} (a : α) : Matches (Pure.pure a : m α) (Pure.pure a : n α)
  bind {α β : Type} {x : m α} {y : n α} {f : α → m β} {g : α → n β} (hx : Matches x y)
    (hf : ∀ a, Matches (f a) (g a)) : Matches (x >>= f) (y >>= g)

/-- Computations that are equal. -/
def Lockstep.same (m : Type → Type) [Monad m] : Lockstep m m where
  Matches x y := x = y
  pure _ := rfl
  bind hx hf := by rw [hx, funext hf]

/-- The events that a refresh of the table of processes logs. -/
def Event.ofPass : Event → Bool
  | .refreshFailed .. | .passHadErrors _ | .passRecovered => true
  | _ => false

theorem ProcessTable.ofPass_settled {loud : Bool} {pid : Nat} {settled : Settled} :
    ∀ e ∈ settled.events loud pid, e.ofPass = true := by
  unfold Settled.events
  cases settled.fault? with
  | none => exact fun e he => nomatch he
  | some fault => simp [Event.ofPass]

theorem ProcessTable.ofPass_passEvents {failing : Bool} {errors : Nat} :
    ∀ e ∈ passEvents failing errors, e.ofPass = true := by
  unfold passEvents
  split
  · simp [Event.ofPass]
  · split <;> simp [Event.ofPass]

namespace Lockstep

variable {m n : Type → Type} [Monad m] [Monad n] (L : Lockstep m n) {α β ε : Type}

/-! ## Loops and computations that can stop early -/

theorem forM {f : α → m PUnit} {g : α → n PUnit} {l : List α}
    (h : ∀ a ∈ l, L.Matches (f a) (g a)) : L.Matches (l.forM f) (l.forM g) := by
  induction l with
  | nil => exact L.pure ()
  | cons a l ih =>
    rw [List.forall_mem_cons] at h
    exact L.bind h.1 fun _ => ih h.2

theorem foldlM {f : β → α → m β} {g : β → α → n β} {l : List α}
    (h : ∀ b, ∀ a ∈ l, L.Matches (f b a) (g b a)) (b : β) :
    L.Matches (l.foldlM f b) (l.foldlM g b) := by
  induction l generalizing b with
  | nil => exact L.pure b
  | cons a l ih =>
    rw [List.foldlM_cons, List.foldlM_cons]
    exact L.bind (h b a List.mem_cons_self) (ih fun b a ha => h b a (List.mem_cons_of_mem _ ha))

theorem runBind {x : ExceptT ε m α} {y : ExceptT ε n α} {f : α → ExceptT ε m β}
    {g : α → ExceptT ε n β} (hx : L.Matches x.run y.run)
    (hf : ∀ a, L.Matches (f a).run (g a).run) : L.Matches (x >>= f).run (y >>= g).run := by
  rw [ExceptT.run_bind, ExceptT.run_bind]
  refine L.bind hx fun r => ?_
  cases r with
  | ok a => exact hf a
  | error e => exact L.pure _

theorem runLift [LawfulMonad m] [LawfulMonad n] {x : m α} {y : n α} (h : L.Matches x y) :
    L.Matches (liftM x : ExceptT ε m α).run (liftM y : ExceptT ε n α).run := by
  show L.Matches (Except.ok <$> x) (Except.ok <$> y)
  rw [map_eq_pure_bind, map_eq_pure_bind]
  exact L.bind h fun _ => L.pure _

variable {L} {probe : Probe m} {probe' : Probe n}

/-! ## What operations ask -/

/-- What a refresh asks about one process. -/
structure Reads (L : Lockstep m n) (probe : Probe m) (probe' : Probe n) (pid : Nat) : Prop where
  processFile : ∀ name, L.Matches (probe.processFile pid name) (probe'.processFile pid name)
  processOwner : L.Matches (probe.processOwner pid) (probe'.processOwner pid)

/-- What settling one number asks. -/
structure Settles (L : Lockstep m n) (probe : Probe m) (probe' : Probe n) (pid : Nat) : Prop
    extends L.Reads probe probe' pid where
  clockTicks : L.Matches probe.clockTicks probe'.clockTicks
  pageSize : L.Matches probe.pageSize probe'.pageSize

/-- What bringing the table of processes up to date asks and logs. -/
structure Passes (L : Lockstep m n) (probe : Probe m) (probe' : Probe n) : Prop where
  listPids : L.Matches probe.listPids probe'.listPids
  settles : ∀ pid, L.Settles probe probe' pid
  log : ∀ e : Event, e.ofPass = true → L.Matches (probe.log e) (probe'.log e)

/-- What an update of the memory asks and logs. -/
structure ReadsMemory (L : Lockstep m n) (probe : Probe m) (probe' : Probe n) : Prop where
  memInfo : L.Matches probe.memInfo probe'.memInfo
  log : ∀ keys, L.Matches (probe.log (.keysMissing keys)) (probe'.log (.keysMissing keys))

/-- What a discovery of interfaces asks. -/
structure Discovers (L : Lockstep m n) (probe : Probe m) (probe' : Probe n) : Prop where
  netDev : L.Matches probe.netDev probe'.netDev
  interfaceAttributes : ∀ name,
    L.Matches (probe.interfaceAttributes name) (probe'.interfaceAttributes name)

/-- What a probe asks of a machine, and the only event that it logs by itself. -/
structure Serves (L : Lockstep m n) (machine : Machine m) (machine' : Machine n) : Prop where
  readText : ∀ p, L.Matches (machine.readText p) (machine'.readText p)
  listDirectory : ∀ p, L.Matches (machine.listDirectory p) (machine'.listDirectory p)
  owner : ∀ p, L.Matches (machine.owner p) (machine'.owner p)
  setting : ∀ key, L.Matches (machine.setting key) (machine'.setting key)
  lastErrno : L.Matches machine.lastErrno machine'.lastErrno
  log : ∀ key fallback, L.Matches (machine.log (.settingFallback key fallback))
    (machine'.log (.settingFallback key fallback))

/-! ## Machines -/

namespace Serves

variable {machine : Machine m} {machine' : Machine n}

theorem readBelow (h : L.Serves machine machine') (root : Path) (name : String) :
    L.Matches (machine.readBelow root name) (machine'.readBelow root name) := by
  refine L.bind (h.readText _) fun answer => ?_
  cases answer <;> exact L.pure _

theorem settingOr (h : L.Serves machine machine') (key : Setting) (fallback : Nat) :
    L.Matches (machine.settingOr key fallback) (machine'.settingOr key fallback) := by
  refine L.bind (h.setting key) fun answer => ?_
  cases answer with
  | some value =>
    dsimp only
    split
    · exact L.pure _
    · exact L.bind (h.log key fallback) fun _ => L.pure _
  | none => exact L.bind (h.log key fallback) fun _ => L.pure _

theorem processorsOnline (h : L.Serves machine machine') :
    L.Matches machine.processorsOnline machine'.processorsOnline := by
  refine L.bind (h.setting .processorsOnline) fun answer => ?_
  cases answer with
  | some value =>
    dsimp only
    split
    · exact L.pure _
    · exact L.bind h.lastErrno fun _ => L.pure _
  | none => exact L.bind h.lastErrno fun _ => L.pure _

theorem listPids (h : L.Serves machine machine') (root : Path) :
    L.Matches (machine.listPids root) (machine'.listPids root) := by
  refine L.bind (h.listDirectory root) fun answer => ?_
  cases answer <;> exact L.pure _

theorem bootTime (h : L.Serves machine machine') (root : Path) :
    L.Matches (machine.bootTime root) (machine'.bootTime root) := by
  refine L.bind (h.readBelow root "stat") fun answer => ?_
  cases answer with
  | error fault => exact L.pure _
  | ok content =>
    dsimp only
    split <;> exact L.pure _

/-- What settling a number asks of the probe of a machine. -/
theorem settles (h : L.Serves machine machine') (procPath : String) (pid : Nat) :
    L.Settles (machine.probe procPath) (machine'.probe procPath) pid where
  processFile _ := h.readText _
  processOwner := h.owner _
  clockTicks := h.settingOr _ _
  pageSize := h.settingOr _ _

end Serves

/-! ## Memory and interfaces -/

theorem ReadsMemory.update (h : L.ReadsMemory probe probe') (mem : Memory) :
    L.Matches (mem.update probe) (mem.update probe') := by
  refine L.bind h.memInfo fun answer => ?_
  cases answer with
  | error fault => exact L.pure _
  | ok content =>
    dsimp only
    split
    · exact L.bind (h.log _) fun _ => L.pure _
    · exact L.pure _

namespace Discovers

theorem discoverRows (h : L.Discovers probe probe') (rows : List Proc.NetDev) (r : Registry) :
    L.Matches (Interface.discoverRows probe rows r) (Interface.discoverRows probe' rows r) := by
  induction rows generalizing r with
  | nil => exact L.pure _
  | cons row rest ih =>
    exact L.bind (h.interfaceAttributes row.interface) fun _ => L.bind (ih _) fun _ => L.pure _

theorem discover (h : L.Discovers probe probe') (r : Registry) :
    L.Matches (Interface.discover probe r) (Interface.discover probe' r) := by
  refine L.bind h.netDev fun answer => ?_
  cases answer with
  | error fault => exact L.pure _
  | ok content => exact L.bind (h.discoverRows _ r) fun _ => L.pure _

theorem update (h : L.Discovers probe probe') (t : InterfaceTable) (trackedOnly : Bool)
    (r : Registry) :
    L.Matches (t.update probe trackedOnly r) (t.update probe' trackedOnly r) := by
  refine L.bind (h.discover r) fun answer => ?_
  match answer with
  | (.error _, _) | (.ok _, _) => exact L.pure _

end Discovers

/-! ## One process -/

variable [LawfulMonad m] [LawfulMonad n] {pid : Nat}

namespace Reads

open ProcessEntry

theorem readLive (h : L.Reads probe probe' pid) (name : String) :
    L.Matches (readLive probe pid name).run (readLive probe' pid name).run := by
  refine L.runBind (L.runLift (h.processFile name)) fun answer => ?_
  cases answer with
  | ok content =>
    dsimp only
    split <;> exact L.pure _
  | error e => exact L.pure _

theorem readStat (h : L.Reads probe probe' pid) :
    L.Matches (readStat probe pid).run (readStat probe' pid).run := by
  refine L.runBind (h.readLive "stat") fun content => ?_
  cases Proc.Stat.parse content <;> exact L.pure _

theorem readOwner (h : L.Reads probe probe' pid) :
    L.Matches (readOwner probe pid).run (readOwner probe' pid).run := by
  refine L.runBind (L.runLift h.processOwner) fun answer => ?_
  cases answer <;> exact L.pure _

theorem readStatm (h : L.Reads probe probe' pid) :
    L.Matches (readStatm probe pid).run (readStatm probe' pid).run := by
  refine L.runBind (h.readLive "statm") fun content => ?_
  cases Proc.Statm.parse content <;> exact L.pure _

theorem readIo (h : L.Reads probe probe' pid) :
    L.Matches (readIo probe pid).run (readIo probe' pid).run := by
  refine L.runBind (L.runLift (h.processFile "io")) fun answer => ?_
  cases answer with
  | ok content => exact L.pure _
  | error e =>
    dsimp only
    split
    · exact L.pure _
    · split
      · exact L.runBind (h.readLive "stat") fun _ => L.pure _
      · exact L.pure _

theorem observe {p : ProcessEntry} (h : L.Reads probe probe' p.pid) (initial : Bool) :
    L.Matches (p.observe probe initial).run (p.observe probe' initial).run := by
  rw [observe_eq, observe_eq]
  refine L.runBind h.readStat fun stat => ?_
  refine L.runBind ?_ fun owner => ?_
  · split
    · exact h.readOwner
    · exact L.pure _
  · refine L.runBind ?_ fun statm => ?_
    · split
      · exact L.pure _
      · exact h.readStatm
    · exact L.runBind h.readIo fun _ => L.pure _

theorem refresh {p : ProcessEntry} (h : L.Reads probe probe' p.pid) (initial : Bool) :
    L.Matches (p.refresh probe initial) (p.refresh probe' initial) := by
  refine L.bind (h.observe initial) fun answer => ?_
  match answer with
  | .ok _ | .error .gone | .error (.fault _) => exact L.pure _

end Reads

namespace Settles

open ProcessTable

variable {t u : ProcessTable}

theorem readAfresh (h : L.Settles probe probe' pid) (hboot : t.bootTime = u.bootTime)
    (hhistory : t.cadence.history = u.cadence.history) :
    L.Matches (readAfresh probe t pid) (readAfresh probe' u pid) := by
  -- The process that is refreshed must be seen to have this number.
  simp only [ProcessTable.readAfresh, ProcessEntry.new, bind_assoc, pure_bind, hboot, hhistory]
  refine L.bind h.clockTicks fun ticks => L.bind h.pageSize fun size => ?_
  refine L.bind (h.toReads.refresh (p := { pid, .. }) true) fun answer => ?_
  obtain ⟨_ | answered, _⟩ := answer
  · exact L.pure _
  · cases answered <;> exact L.pure _

theorem refreshKnown {p : ProcessEntry} (h : L.Settles probe probe' p.pid)
    (hboot : t.bootTime = u.bootTime) (hhistory : t.cadence.history = u.cadence.history) :
    L.Matches (refreshKnown probe t p) (refreshKnown probe' u p) := by
  refine L.bind (h.toReads.refresh false) fun answer => ?_
  obtain ⟨_ | answered, q⟩ := answer
  · exact L.pure _
  · cases answered with
    | false => exact L.pure _
    | true =>
      dsimp only
      split
      · exact L.pure _
      · exact h.readAfresh hboot hhistory

/-- What becomes of a number depends on the time of boot and the length of the histories, and on
nothing else that the table holds. -/
theorem settle (h : L.Settles probe probe' pid) (hboot : t.bootTime = u.bootTime)
    (hhistory : t.cadence.history = u.cadence.history) {known : Option ProcessEntry}
    (hknown : ∀ p, known = some p → p.pid = pid) :
    L.Matches (settle probe t pid known) (settle probe' u pid known) := by
  cases known with
  | none => exact h.readAfresh hboot hhistory
  | some p =>
    obtain rfl := hknown p rfl
    exact h.refreshKnown hboot hhistory

theorem visit (h : L.Settles probe probe' pid)
    (hlog : ∀ e : Event, e.ofPass = true → L.Matches (probe.log e) (probe'.log e))
    (t : ProcessTable) (loud : Bool) (progress : Progress) :
    L.Matches (visit probe t loud progress pid) (visit probe' t loud progress pid) := by
  refine L.bind (h.settle rfl rfl fun p hp => pid_of_lookup hp) fun settled => ?_
  exact L.bind (L.forM fun e he => hlog e (ofPass_settled e he)) fun _ => L.pure _

end Settles

/-! ## The table of processes -/

namespace Passes

theorem refresh (h : L.Passes probe probe') (t : ProcessTable) :
    L.Matches (t.refresh probe) (t.refresh probe') := by
  refine L.bind h.listPids fun answer => ?_
  cases answer with
  | error fault => exact L.pure _
  | ok pids =>
    refine L.bind (L.foldlM (fun progress pid _ => ?_) _) fun progress => ?_
    · exact (h.settles pid).visit h.log t _ progress
    · exact L.bind (L.forM fun e he => h.log e (ProcessTable.ofPass_passEvents e he))
        fun _ => L.pure _

theorem update (h : L.Passes probe probe') (timedToo : Bool) (t : ProcessTable) :
    L.Matches (t.update probe timedToo) (t.update probe' timedToo) := by
  refine L.bind (h.refresh t) fun answer => ?_
  match answer with
  | (.error _, _) | (.ok (), _) => exact L.pure _

end Passes

end Lockstep

/-! ## Two systems -/

variable {σ τ α β : Type} {R : σ → τ → Prop}

/-- Wherever two systems are related, `x` and `y` answer alike and leave them related. -/
def Alike (R : σ → τ → Prop) (x : Observing σ α) (y : Observing τ α) : Prop :=
  ∀ a b, R a b → (x a).1 = (y b).1 ∧ R (x a).2.1 (y b).2.1

theorem Alike.bind {x : Observing σ α} {y : Observing τ α} {f : α → Observing σ β}
    {g : α → Observing τ β} (hx : Alike R x y) (hf : ∀ a, Alike R (f a) (g a)) :
    Alike R (x >>= f) (y >>= g) := by
  intro a b hab
  obtain ⟨hanswer, hnext⟩ := hx a b hab
  rw [Observing.bind_run, Observing.bind_run, hanswer]
  exact hf _ _ _ hnext

def Alike.lockstep (R : σ → τ → Prop) : Lockstep (Observing σ) (Observing τ) where
  Matches := Alike R
  pure := fun _ _ _ hab => ⟨rfl, hab⟩
  bind := Alike.bind

end SystemMetrics
