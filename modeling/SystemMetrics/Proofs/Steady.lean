import SystemMetrics.Proofs.Lockstep
import SystemMetrics.Proofs.Process.Run

/-!
# Systems that stand still

A view is a probe that needs no system: each question has one answer. While a system stands still
and shows a view, every refresh of a process gives what it gives on the view, however many reads it
takes. What holds of the view then holds of every pass over such a system.
-/

namespace SystemMetrics

variable {σ α β : Type} {still : σ → Prop}

/-! ## Computations on a system that stands still -/

/-- Wherever the system stands still, `x` answers `a` and leaves it standing still. -/
def Gives (still : σ → Prop) (x : Observing σ α) (a : Id α) : Prop :=
  ∀ s, still s → (x s).1 = a ∧ still (x s).2.1

/-- Wherever the system stands still, `x` leaves it standing still. -/
def Keeps (still : σ → Prop) (x : Observing σ α) : Prop := ∀ s, still s → still (x s).2.1

namespace Keeps

theorem pure (a : α) : Keeps still (Pure.pure a : Observing σ α) := fun _ hs => hs

theorem bind {x : Observing σ α} {f : α → Observing σ β} (hx : Keeps still x)
    (hf : ∀ a, Keeps still (f a)) : Keeps still (x >>= f) :=
  fun s hs => hf (x s).1 (x s).2.1 (hx s hs)

/-- Computations matched with themselves, if they leave the system standing still. -/
def lockstep (still : σ → Prop) : Lockstep (Observing σ) (Observing σ) where
  Matches x _ := Keeps still x
  pure := pure
  bind := bind

end Keeps

namespace Gives

theorem pure (a : α) : Gives still (Pure.pure a : Observing σ α) (Pure.pure a) :=
  fun _ hs => ⟨rfl, hs⟩

theorem bind {x : Observing σ α} {a : Id α} {f : α → Observing σ β} {g : α → Id β}
    (hx : Gives still x a) (hf : ∀ a, Gives still (f a) (g a)) :
    Gives still (x >>= f) (a >>= g) := by
  intro s hs
  obtain ⟨hanswer, hstill⟩ := hx s hs
  have hnext := hf (x s).1 (x s).2.1 hstill
  rw [Observing.bind_run]
  exact ⟨hnext.1.trans (congrArg g hanswer), hnext.2⟩

theorem keeps {x : Observing σ α} {a : Id α} (h : Gives still x a) : Keeps still x :=
  fun s hs => (h s hs).2

def lockstep (still : σ → Prop) : Lockstep (Observing σ) Id where
  Matches := Gives still
  pure := pure
  bind := bind

end Gives

/-! ## Questions about processes -/

/-- While it stands still, a system shows the processes of a view. Its settings may change. -/
structure ShowsProcesses (probe : Probe (Observing σ)) (view : Probe Id) (still : σ → Prop) :
    Prop where
  listPids : Gives still probe.listPids view.listPids
  processFile : ∀ pid name, Gives still (probe.processFile pid name) (view.processFile pid name)
  processOwner : ∀ pid, Gives still (probe.processOwner pid) (view.processOwner pid)
  clockTicks : Keeps still probe.clockTicks
  pageSize : Keeps still probe.pageSize
  log : ∀ e, Keeps still (probe.log e)

namespace ShowsProcesses

open ProcessEntry ProcessTable

variable {probe : Probe (Observing σ)} {view : Probe Id}

theorem reads (h : ShowsProcesses probe view still) (pid : Nat) :
    (Gives.lockstep still).Reads probe view pid where
  processFile := h.processFile pid
  processOwner := h.processOwner pid

theorem settles (h : ShowsProcesses probe view still) (pid : Nat) :
    (Keeps.lockstep still).Settles probe probe pid where
  processFile name := (h.processFile pid name).keeps
  processOwner := (h.processOwner pid).keeps
  clockTicks := h.clockTicks
  pageSize := h.pageSize

theorem refresh (h : ShowsProcesses probe view still) (initial : Bool) (p : ProcessEntry) :
    Gives still (p.refresh probe initial) (p.refresh view initial) :=
  (h.reads p.pid).refresh initial

theorem new (h : ShowsProcesses probe view still) (pid bootTime history : Nat) :
    Keeps still (ProcessEntry.new probe pid bootTime history) :=
  h.clockTicks.bind fun _ => h.pageSize.bind fun _ => Keeps.pure _

theorem visit (h : ShowsProcesses probe view still) (t : ProcessTable) (loud : Bool)
    (progress : Progress) (pid : Nat) : Keeps still (visit probe t loud progress pid) :=
  (h.settles pid).visit (fun e _ => h.log e) t loud progress

theorem passes (h : ShowsProcesses probe view still) :
    (Keeps.lockstep still).Passes probe probe where
  listPids := h.listPids.keeps
  settles := h.settles
  log := fun e _ => h.log e

end ShowsProcesses

end SystemMetrics
