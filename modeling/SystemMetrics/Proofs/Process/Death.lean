import SystemMetrics.Process.Values
import SystemMetrics.Proofs.Process.Counters

/-!
# The time of death

The first sampling call that finds the committed state terminal sets the time of death, and nothing
moves it afterwards: not a later call, even one whose clock went back, and not a refresh, whatever
state it reads and however it ends.
-/

namespace SystemMetrics.ProcessEntry

variable {p : ProcessEntry} {history : Nat} {read : Committed} {calls : List Sampling}

/-- A sampling call that found the process terminated. -/
def Sampling.FoundDead (call : Sampling) : Prop :=
  call.read.stat.state = 'Z' ∨ call.read.stat.state = 'X'

instance (call : Sampling) : Decidable call.FoundDead := inferInstanceAs (Decidable (_ ∨ _))

theorem isTerminal_iff (state : Char) : isTerminal state = true ↔ state = 'Z' ∨ state = 'X' := by
  simp [isTerminal]

/-- The time of the first of some calls, the latest first, that found the process terminated. -/
def firstDeath? (calls : List Sampling) : Option Timestamp :=
  calls.reverse.findSome? fun call => if call.FoundDead then some call.now else none

theorem firstDeath?_cons (call : Sampling) (calls : List Sampling) :
    firstDeath? (call :: calls) =
      (firstDeath? calls).or (if call.FoundDead then some call.now else none) := by
  simp [firstDeath?, List.findSome?_append]

theorem firstDeath?_eq_none_iff : firstDeath? calls = none ↔ ∀ call ∈ calls, ¬ call.FoundDead := by
  simp [firstDeath?]

/-- Earlier calls decide before later ones. -/
theorem firstDeath?_eq_some {later earlier : List Sampling} {call : Sampling}
    (hdead : call.FoundDead) (hearlier : ∀ c ∈ earlier, ¬ c.FoundDead) :
    firstDeath? (later ++ call :: earlier) = some call.now := by
  induction later with
  | nil =>
    rw [List.nil_append, firstDeath?_cons, firstDeath?_eq_none_iff.mpr hearlier, if_pos hdead,
      Option.none_or]
  | cons c later ih => rw [List.cons_append, firstDeath?_cons, ih, Option.some_or]

theorem sample_timeOfDeath (p : ProcessEntry) (now : Timestamp) (takenAt : Nat) :
    (p.sample now takenAt).timeOfDeath =
      p.timeOfDeath.or (if isTerminal p.stat.state then some now else none) := by
  simp only [sample]
  cases p.timeOfDeath with
  | none => simp
  | some t => simp

theorem refresh_timeOfDeath {σ : Type} (probe : Probe (Observing σ)) (initial : Bool)
    (p : ProcessEntry) (s : σ) :
    (p.refresh probe initial s).1.2.timeOfDeath = p.timeOfDeath :=
  congrArg Trail.timeOfDeath (refresh_trail probe initial p s)

theorem Run.timeOfDeath_eq (h : Run history read calls p) : p.timeOfDeath = firstDeath? calls := by
  induction h with
  | new => rfl
  | refresh _ probe initial s ih => rw [refresh_timeOfDeath, ih]
  | @sample read calls p h now takenAt ih =>
    rw [sample_timeOfDeath, firstDeath?_cons, ih, h.fed.1]
    exact congrArg _ (ite_congr (propext (isTerminal_iff _)) (fun _ => rfl) fun _ => rfl)
  | updateTimed _ ih => exact ih

/-- The time of death is that of the first sample that found the process terminated. Whatever
refreshes and sampling calls a process has gone through, there is no time of death as long as no
sampling call found the state that was committed last to be `Z` or `X`; and from the first call that
did on, the time of death is the time of that call, whatever calls and refreshes came later. -/
theorem Run.death_never_moves (h : Run history read calls p) :
    (p.terminationDate? = none ↔ ∀ call ∈ calls, ¬ call.FoundDead) ∧
    ∀ later call earlier, calls = later ++ call :: earlier → call.FoundDead →
      (∀ c ∈ earlier, ¬ c.FoundDead) → p.terminationDate? = some call.now := by
  rw [terminationDate?, h.timeOfDeath_eq]
  refine ⟨firstDeath?_eq_none_iff, ?_⟩
  rintro later call earlier rfl hdead hearlier
  exact firstDeath?_eq_some hdead hearlier

/-- A system with one process in a given state. -/
def shellInState (state : String) : Probe (Observing Unit) :=
  ProcessTable.filesOnly [7] fun _ name =>
    if name = "stat" then
      .ok ("7 (sh) " ++ state ++ " 1 7 7 0 -1 0 0 0 2 0 10 5 0 0 20 0 1 0 40 0 0")
    else ProcessTable.shellFile 100 name

def sampleInState (state : String) (now : Int) (p : ProcessEntry) : ProcessEntry :=
  (p.refresh (shellInState state) false ()).1.2.sample ⟨now⟩ 0

/-- A `stat` without a state lacks a column, and the refresh that meets it leaves the zombie that
was found before. In the end the process runs again and the clock has gone back. -/
theorem death_never_moves_revived :
    let asleep := sampleInState "S" 4000 (new (shellInState "S") 7 0 2 ()).1
    let dead := sampleInState "" 6000 (sampleInState "Z" 5000 asleep)
    let revived := sampleInState "R" 1000 dead
    asleep.terminationDate? = none ∧ dead.stat.state = 'Z' ∧ revived.stat.state = 'R' ∧
      ∃ read calls, Run 2 read calls revived ∧
        calls.map (fun call => (call.now.milliseconds, call.read.stat.state)) =
          [(1000, 'R'), (6000, 'Z'), (5000, 'Z'), (4000, 'S')] ∧
        revived.terminationDate? = some ⟨5000⟩ := by
  intro asleep dead revived
  have hcall {read calls p} (h : Run 2 read calls p) (state : String) (now : Int) :
      Run 2 (read.next (shellInState state) false p ())
        (⟨⟨now⟩, 0, read.next (shellInState state) false p ()⟩ :: calls)
        (sampleInState state now p) :=
    (h.refresh _ false ()).sample ⟨now⟩ 0
  have hasleep : Run 2 _ _ asleep := hcall (Run.new _ () 7 0) _ _
  have hrevived : Run 2 _ _ revived := hcall (hcall (hcall hasleep _ _) _ _) _ _
  have hnone := (Run.death_never_moves hasleep).1
  have hfirst := (Run.death_never_moves hrevived).2 [_, _] _ [_] rfl
  exact ⟨hnone.mpr (by decide +kernel), by decide +kernel, by decide +kernel, _, _, hrevived,
    by decide +kernel, hfirst (by decide +kernel) (by decide +kernel)⟩

end SystemMetrics.ProcessEntry
