import SystemMetrics.Event

/-!
# Observing a changing system

Every question to the system can be answered differently the next time it is put, and work on the
answers is logged. `Observing σ` is the computations that see a system in a state of type `σ`, may
leave it changed, and write log events.
-/

namespace SystemMetrics

def Observing (σ α : Type) : Type := σ → α × σ × List Event

namespace Observing

variable {σ α β : Type}

protected def pure (a : α) : Observing σ α := fun s => (a, s, [])

protected def bind (x : Observing σ α) (f : α → Observing σ β) : Observing σ β := fun s =>
  let (a, s, before) := x s
  let (b, s, after) := f a s
  (b, s, before ++ after)

instance : Monad (Observing σ) where
  pure := Observing.pure
  bind := Observing.bind

/-- Writes an event. -/
def log (e : Event) : Observing σ Unit := fun s => ((), s, [e])

/-- Reads something off the present state. -/
def gets (f : σ → α) : Observing σ α := fun s => (f s, s, [])

/-- Takes an answer from the present state and leaves the next one. -/
def answer (f : σ → α × σ) : Observing σ α := fun s =>
  let (a, s) := f s
  (a, s, [])

@[simp] theorem pure_run (a : α) (s : σ) : (pure a : Observing σ α) s = (a, s, []) := rfl

@[simp] theorem bind_run (x : Observing σ α) (f : α → Observing σ β) (s : σ) :
    (x >>= f) s =
      ((f (x s).1 (x s).2.1).1, (f (x s).1 (x s).2.1).2.1,
        (x s).2.2 ++ (f (x s).1 (x s).2.1).2.2) := rfl

@[simp] theorem log_run (e : Event) (s : σ) : log e s = ((), s, [e]) := rfl

instance : LawfulMonad (Observing σ) :=
  LawfulMonad.mk' (Observing σ)
    (fun x => by funext s; exact congrArg (fun l => ((x s).1, (x s).2.1, l)) (List.append_nil _))
    (fun _ _ => rfl)
    (fun x f g => by funext s; simp [List.append_assoc])

/-- A computation that can stop early gets through a step only if that step itself got through. -/
theorem run_bind_ok {ε : Type} {x : ExceptT ε (Observing σ) α}
    {f : α → ExceptT ε (Observing σ) β} {s : σ} {b : β} (h : ((x >>= f).run s).1 = .ok b) :
    ∃ a, (x.run s).1 = .ok a ∧ ((f a).run (x.run s).2.1).1 = .ok b := by
  rw [ExceptT.run_bind, bind_run] at h
  cases hx : (x.run s).1 with
  | error e => rw [hx] at h; cases h
  | ok a => rw [hx] at h; exact ⟨a, rfl, h⟩

end Observing

end SystemMetrics
