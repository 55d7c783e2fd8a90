import Mathlib.Logic.Relation
import SystemMetrics.Proofs.Sampler.Cadence
import SystemMetrics.Sampler.Loop

/-!
# Stopping a sampling thread

The owner sets the flag and notifies the thread in one section, and the thread looks at the flag in
the section in which it begins to wait. So a thread that is to end never waits without a
notification. Between two looks at the flag lies at most one pass, and it comes only if it had been
decided on by the time at which the flag was set.
-/

namespace SystemMetrics

@[simp] theorem SamplerThread.passTimes_beginPass (t : SamplerThread) :
    t.beginPass.passTimes = t.passTimes ++ [t.now] := by
  simp [passTimes, beginPass]

namespace SamplerLoop

open Relation (ReflTransGen)

variable {l m s : SamplerLoop}

/-! ## Sections -/

/-- The sections of the thread, each with what it takes. -/
inductive Section (l : SamplerLoop) : SamplerLoop → Prop
  | begin (hplace : l.place = .decided) :
      Section l { l with thread := l.thread.beginPass, place := .passing }
  | finish (hplace : l.place = .passing) (hpanicked : l.thread.endPass.panicked = false) :
      Section l { l with thread := l.thread.endPass, place := .unlocked }
  | abort (hplace : l.place = .passing) (hpanicked : l.thread.endPass.panicked = true) :
      Section l { l with thread := l.thread.endPass, place := .exited }
  | park (hplace : l.place = .unlocked) (hterminate : l.terminate = false) :
      Section l { l with place := .parked false }
  | leave (hplace : l.place = .unlocked ∨ l.place = .parked true ∨
        l.place = .parked false ∧ l.thread.deadline ≤ l.thread.now)
      (hterminate : l.terminate = true) : Section l { l with place := .leaving }
  | resume (hplace : l.place = .parked true) (hterminate : l.terminate = false) :
      Section l { l with place := .unlocked }
  | decide (hplace : l.place = .parked false) (hterminate : l.terminate = false)
      (hdue : l.thread.deadline ≤ l.thread.now) :
      Section l { l with thread := l.thread.catchUp, place := .decided }
  | exit (hplace : l.place = .leaving) : Section l { l with place := .exited }

theorem section_of_next? (h : l.next? = some m) : Section l m := by
  obtain ⟨thread, place, terminate, handle⟩ := l
  cases place with
  | decided =>
    cases h
    exact .begin rfl
  | passing =>
    simp only [next?, Option.some.injEq] at h
    cases hpanicked : thread.endPass.panicked with
    | true =>
      rw [hpanicked, if_pos rfl] at h
      exact h ▸ .abort rfl hpanicked
    | false =>
      rw [hpanicked, if_neg Bool.false_ne_true] at h
      exact h ▸ .finish rfl hpanicked
  | unlocked =>
    cases terminate <;> cases h
    · exact .park rfl rfl
    · exact .leave (Or.inl rfl) rfl
  | parked notified =>
    cases notified with
    | true =>
      cases terminate <;> cases h
      · exact .resume rfl rfl
      · exact .leave (Or.inr (Or.inl rfl)) rfl
    | false =>
      by_cases hwaits : thread.now < thread.deadline
      · simp [next?, hwaits] at h
      · simp only [next?, hwaits, decide_false, Bool.and_false, Bool.false_eq_true, if_false] at h
        have hdue := Nat.not_lt.mp hwaits
        cases terminate <;> cases h
        · exact .decide rfl rfl hdue
        · exact .leave (Or.inr (Or.inr ⟨rfl, hdue⟩)) rfl
  | leaving =>
    cases h
    exact .exit rfl
  | exited => cases h

theorem Section.next?_eq (h : Section l m) : l.next? = some m := by
  obtain ⟨thread, place, terminate, handle⟩ := l
  cases h with
  | begin hplace | exit hplace =>
    cases hplace
    rfl
  | finish hplace hpanicked | abort hplace hpanicked =>
    cases hplace
    simp only at hpanicked
    simp [next?, hpanicked]
  | park hplace hterminate | resume hplace hterminate =>
    cases hplace
    cases hterminate
    rfl
  | leave hplace hterminate =>
    cases hterminate
    rcases hplace with hplace | hplace | ⟨hplace, hdue⟩ <;> cases hplace
    · rfl
    · rfl
    · simp only at hdue
      simp [next?, hdue]
  | decide hplace hterminate hdue =>
    cases hplace
    cases hterminate
    simp only at hdue
    simp [next?, hdue]

/-- The steps of a thread and its owner. Time may go by at any moment. -/
inductive Step (l : SamplerLoop) : SamplerLoop → Prop
  | thread {m : SamplerLoop} (h : l.next? = some m) : Step l m
  | wake : Step l l.wake
  | stop : Step l l.stop
  | join {m : SamplerLoop} (h : l.join? = some m) : Step l m
  | elapse (span : Nat) : Step l (l.elapse span)

/-! ## The owner -/

@[simp] theorem thread_wake (l : SamplerLoop) : l.wake.thread = l.thread := by
  unfold wake
  split <;> rfl

@[simp] theorem terminate_wake (l : SamplerLoop) : l.wake.terminate = l.terminate := by
  unfold wake
  split <;> rfl

@[simp] theorem handle_wake (l : SamplerLoop) : l.wake.handle = l.handle := by
  unfold wake
  split <;> rfl

theorem place_wake_ne (l : SamplerLoop) : l.wake.place ≠ .parked false := by
  unfold wake
  split
  · exact nofun
  · rename_i hplace
    exact hplace false

/-- A notification leaves a thread that does not wait at its place. -/
theorem place_wake_eq_iff (place : SamplerPlace) (h : ∀ notified, place ≠ .parked notified) :
    l.wake.place = place ↔ l.place = place := by
  unfold wake
  split
  · rename_i notified hplace
    rw [hplace]
    exact ⟨fun he => absurd he.symm (h true), fun he => absurd he.symm (h notified)⟩
  · exact Iff.rfl

theorem stop_of_held (h : l.handle = .held) :
    l.stop = { l.wake with terminate := true, handle := .joining } := by
  rw [stop, h]

theorem stop_of_not_held (h : l.handle ≠ .held) : l.stop = l := by
  unfold stop
  split
  · contradiction
  · rfl
  · rfl

@[simp] theorem thread_stop (l : SamplerLoop) : l.stop.thread = l.thread := by
  by_cases h : l.handle = .held
  · rw [stop_of_held h]
    exact thread_wake l
  · rw [stop_of_not_held h]

theorem place_stop_eq_iff (place : SamplerPlace) (h : ∀ notified, place ≠ .parked notified) :
    l.stop.place = place ↔ l.place = place := by
  by_cases hheld : l.handle = .held
  · rw [stop_of_held hheld]
    exact place_wake_eq_iff place h
  · rw [stop_of_not_held hheld]

theorem join?_eq_some (h : l.join? = some m) :
    l.place = .exited ∧ m = { l with handle := .joined } := by
  unfold join? at h
  split at h
  · rename_i hjoin
    cases h
    exact ⟨hjoin.2, rfl⟩
  · cases h

/-! ## Passes and decisions -/

/-- A step begins a pass only where one has been decided on. -/
theorem Step.passTimes (h : Step l m) :
    m.thread.passTimes = l.thread.passTimes ∨
      l.place = .decided ∧ m.place = .passing ∧
        m.thread.passTimes = l.thread.passTimes ++ [l.thread.now] := by
  cases h with
  | thread hnext =>
    cases section_of_next? hnext with
    | begin hplace => exact Or.inr ⟨hplace, rfl, SamplerThread.passTimes_beginPass _⟩
    | decide => exact Or.inl (SamplerThread.passTimes_catchUp _)
    | finish | abort | park | leave | resume | exit => exact Or.inl rfl
  | wake => exact Or.inl (by rw [thread_wake])
  | stop => exact Or.inl (by rw [thread_stop])
  | join hjoin =>
    obtain ⟨-, rfl⟩ := join?_eq_some hjoin
    exact Or.inl rfl
  | elapse span => exact Or.inl rfl

/-- The thread decides on a pass when its wait has lasted until the deadline and the flag is not
set. -/
structure Decides (l m : SamplerLoop) : Prop where
  place_eq : l.place = .parked false
  terminate_eq : l.terminate = false
  deadline_le : l.thread.deadline ≤ l.thread.now
  next?_eq : l.next? = some m

theorem Step.decided (h : Step l m) (hplace : m.place = .decided) :
    l.place = .decided ∧ m.thread.passTimes = l.thread.passTimes ∨ Decides l m := by
  cases h with
  | thread hnext =>
    cases section_of_next? hnext with
    | decide hparked hterminate hdue => exact Or.inr ⟨hparked, hterminate, hdue, hnext⟩
    | begin | finish | abort | park | leave | resume | exit => cases hplace
  | wake => exact Or.inl ⟨(place_wake_eq_iff .decided nofun).mp hplace, by rw [thread_wake]⟩
  | stop => exact Or.inl ⟨(place_stop_eq_iff .decided nofun).mp hplace, by rw [thread_stop]⟩
  | join hjoin =>
    obtain ⟨-, rfl⟩ := join?_eq_some hjoin
    exact Or.inl ⟨hplace, rfl⟩
  | elapse span => exact Or.inl ⟨hplace, rfl⟩

/-- Where a pass has been decided on, it is the first one, or the thread took the decision on its
way there and has begun no pass since. -/
theorem decided_from (h : ReflTransGen Step s l) (hplace : l.place = .decided) :
    l.thread.passTimes = s.thread.passTimes ∨
      ∃ before after, ReflTransGen Step s before ∧ Decides before after ∧
        ReflTransGen Step after l ∧ l.thread.passTimes = after.thread.passTimes := by
  induction h with
  | refl => exact Or.inl rfl
  | @tail l m hto hstep ih =>
    rcases hstep.decided hplace with ⟨hbefore, htimes⟩ | hdecides
    · rcases ih hbefore with hfirst | ⟨before, after, hto', hdecides, hfrom, htimes'⟩
      · exact Or.inl (htimes.trans hfirst)
      · exact Or.inr ⟨before, after, hto', hdecides, hfrom.tail hstep, htimes.trans htimes'⟩
    · exact Or.inr ⟨l, m, hto, hdecides, .refl, rfl⟩

/-! ## After the flag has been set -/

/-- A thread that is to end, as it was asked to in the state `l`. -/
structure Ending (l m : SamplerLoop) : Prop where
  terminate_eq : m.terminate = true
  handle_ne : m.handle ≠ .held
  awake : m.place ≠ .parked false
  undecided : m.place = .decided → l.place = .decided ∧ m.thread.passTimes = l.thread.passTimes
  passTimes : m.thread.passTimes = l.thread.passTimes ∨
    l.place = .decided ∧ ∃ a, m.thread.passTimes = l.thread.passTimes ++ [a]

theorem ending_stop (hheld : l.handle = .held) : Ending l l.stop := by
  have hthread := thread_stop l
  constructor
  · rw [stop_of_held hheld]
  · rw [stop_of_held hheld]
    exact nofun
  · rw [stop_of_held hheld]
    exact place_wake_ne l
  · intro hplace
    exact ⟨(place_stop_eq_iff .decided nofun).mp hplace, by rw [hthread]⟩
  · exact Or.inl (by rw [hthread])

theorem Ending.stop_eq (h : Ending l m) : m.stop = m := stop_of_not_held h.handle_ne

theorem Ending.step (h : Ending l m) {n : SamplerLoop} (hstep : Step m n) : Ending l n := by
  have hundecided (hplace : n.place = .decided) :
      l.place = .decided ∧ n.thread.passTimes = l.thread.passTimes := by
    rcases hstep.decided hplace with ⟨hbefore, htimes⟩ | hdecides
    · exact ⟨(h.undecided hbefore).1, htimes.trans (h.undecided hbefore).2⟩
    · exact absurd hdecides.place_eq h.awake
  have hpassTimes : n.thread.passTimes = l.thread.passTimes ∨
      l.place = .decided ∧ ∃ a, n.thread.passTimes = l.thread.passTimes ++ [a] := by
    rcases hstep.passTimes with hsame | ⟨hdecided, -, hbegun⟩
    · rw [hsame]
      exact h.passTimes
    · obtain ⟨hplace, htimes⟩ := h.undecided hdecided
      exact Or.inr ⟨hplace, m.thread.now, by rw [hbegun, htimes]⟩
  obtain ⟨hterminate, hhandle, hawake, -, -⟩ := h
  cases hstep with
  | thread hnext =>
    cases section_of_next? hnext with
    | begin | finish | abort | leave | exit =>
      exact ⟨hterminate, hhandle, nofun, hundecided, hpassTimes⟩
    -- These sections have looked at the flag.
    | park _ hnot | resume _ hnot | decide _ hnot =>
      rw [hterminate] at hnot
      cases hnot
  | wake =>
    exact ⟨by rwa [terminate_wake], by rwa [handle_wake], place_wake_ne m, hundecided, hpassTimes⟩
  | stop =>
    rw [stop_of_not_held hhandle] at hundecided hpassTimes ⊢
    exact ⟨hterminate, hhandle, hawake, hundecided, hpassTimes⟩
  | join hjoin =>
    obtain ⟨-, rfl⟩ := join?_eq_some hjoin
    exact ⟨hterminate, nofun, hawake, hundecided, hpassTimes⟩
  | elapse span => exact ⟨hterminate, hhandle, hawake, hundecided, hpassTimes⟩

theorem ending (hheld : l.handle = .held) (h : ReflTransGen Step l.stop m) : Ending l m := by
  induction h with
  | refl => exact ending_stop hheld
  | tail _ hstep ih => exact ih.step hstep

/-! ## The end -/

/-- After its end the thread stays where it is. -/
theorem Step.exited (h : Step l m) (hplace : l.place = .exited) :
    m.place = .exited ∧ m.thread.passTimes = l.thread.passTimes := by
  cases h with
  | thread hnext =>
    rw [next?, hplace] at hnext
    cases hnext
  | wake => exact ⟨(place_wake_eq_iff .exited nofun).mpr hplace, by rw [thread_wake]⟩
  | stop => exact ⟨(place_stop_eq_iff .exited nofun).mpr hplace, by rw [thread_stop]⟩
  | join hjoin =>
    obtain ⟨-, rfl⟩ := join?_eq_some hjoin
    exact ⟨hplace, rfl⟩
  | elapse span => exact ⟨hplace, rfl⟩

theorem exited (hplace : l.place = .exited) (h : ReflTransGen Step l m) :
    m.place = .exited ∧ m.thread.passTimes = l.thread.passTimes := by
  induction h with
  | refl => exact ⟨hplace, rfl⟩
  | tail _ hstep ih =>
    obtain ⟨hplace', htimes⟩ := hstep.exited ih.1
    exact ⟨hplace', htimes.trans ih.2⟩

/-- How many sections lie before the end of a thread that is to end. -/
def remaining : SamplerPlace → Nat
  | .decided => 4
  | .passing => 3
  | .unlocked | .parked _ => 2
  | .leaving => 1
  | .exited => 0

/-- A thread that is to end is not blocked, and each of its sections brings it closer to its end. -/
theorem Ending.next (h : Ending l m) (hplace : m.place ≠ .exited) :
    ∃ n, m.next? = some n ∧ remaining n.place < remaining m.place := by
  obtain ⟨thread, place, terminate, handle⟩ := m
  obtain rfl : terminate = true := h.terminate_eq
  cases place with
  | decided => exact ⟨_, rfl, Nat.lt_add_one 3⟩
  | passing =>
    refine ⟨_, rfl, ?_⟩
    dsimp only
    split <;> simp [remaining]
  | unlocked => exact ⟨_, rfl, Nat.lt_add_one 1⟩
  | parked notified =>
    cases notified with
    | true => exact ⟨_, rfl, Nat.lt_add_one 1⟩
    | false => exact absurd rfl h.awake
  | leaving => exact ⟨_, rfl, Nat.lt_add_one 0⟩
  | exited => exact absurd rfl hplace

theorem Ending.proceed (h : Ending l m) {count : Nat} (hcount : remaining m.place ≤ count) :
    (m.proceed count).place = .exited := by
  induction count generalizing m with
  | zero =>
    refine Decidable.byContradiction fun hplace => ?_
    obtain ⟨n, -, hless⟩ := h.next hplace
    omega
  | succ count ih =>
    by_cases hplace : m.place = .exited
    · rw [SamplerLoop.proceed, next?, hplace]
      exact hplace
    · obtain ⟨n, hnext, hless⟩ := h.next hplace
      rw [SamplerLoop.proceed, hnext]
      exact ih (h.step (.thread hnext)) (by omega)

/-! ## Stopping -/

/-- Stopping is never lost. When the owner has set the flag, whatever notifications come, in
whatever order the sections stand and however time goes by, the thread does not wait without a
notification, and four more of its own sections bring it to its end. At most one more pass begins,
and only if a pass had been decided on by then: the first one, or one for which the thread had
waited before the flag was set. After the end of the thread no pass begins, and stopping it again
changes nothing. -/
theorem stop_never_lost {interval beganAt : Nat} {durations : List Nat} {panicsAt : Option Nat}
    (hreached : ReflTransGen Step (start interval beganAt durations panicsAt) l)
    (hheld : l.handle = .held) (h : ReflTransGen Step l.stop m) :
    m.place ≠ .parked false ∧
    (m.proceed 4).place = .exited ∧
    (m.thread.passTimes = l.thread.passTimes ∨
      (∃ a, m.thread.passTimes = l.thread.passTimes ++ [a]) ∧ l.place = .decided ∧
        (l.thread.passTimes = [] ∨ ∃ before after,
          ReflTransGen Step (start interval beganAt durations panicsAt) before ∧
          Decides before after ∧ ReflTransGen Step after l ∧
          l.thread.passTimes = after.thread.passTimes)) ∧
    (m.place = .exited → ∀ n, ReflTransGen Step m n →
      n.place = .exited ∧ n.thread.passTimes = m.thread.passTimes) ∧
    m.stop = m := by
  have hending := ending hheld h
  have hremaining : remaining m.place ≤ 4 := by
    cases m.place <;> simp [remaining]
  refine ⟨hending.awake, hending.proceed hremaining, ?_, fun hplace n hn => exited hplace hn,
    hending.stop_eq⟩
  rcases hending.passTimes with hsame | ⟨hplace, hbegun⟩
  · exact Or.inl hsame
  · exact Or.inr ⟨hbegun, hplace, decided_from hreached hplace⟩

theorem proceed_steps (count : Nat) (l : SamplerLoop) : ReflTransGen Step l (l.proceed count) := by
  induction count generalizing l with
  | zero => exact .refl
  | succ count ih =>
    rw [SamplerLoop.proceed]
    split
    · exact .refl
    · rename_i m hnext
      exact .head (.thread hnext) (ih m)

/-- A thread that is stopped between a decision and the pass still makes this pass, and no other. -/
theorem stop_never_lost_decided :
    let l := (((start 30 0 [10] none).proceed 3).elapse 20).proceed 1
    let m := l.stop.wake.proceed 2
    (l.place = .decided ∧ l.thread.passTimes = [0]) ∧ m.thread.passTimes = [0, 30] ∧
    m.place ≠ .parked false ∧ (m.proceed 4).place = .exited ∧ m.stop = m := by
  intro l m
  have hreached : ReflTransGen Step (start 30 0 [10] none) l :=
    ((proceed_steps 3 _).tail (.elapse 20)).trans (proceed_steps 1 _)
  have hstopped : ReflTransGen Step l.stop m :=
    (ReflTransGen.single .wake).trans (proceed_steps 2 _)
  obtain ⟨hawake, hends, -, -, hstop⟩ := stop_never_lost hreached rfl hstopped
  exact ⟨by decide, by decide, hawake, hends, hstop⟩

end SamplerLoop

end SystemMetrics
