import Mathlib.Data.List.Forall2
import SystemMetrics.Proofs.Sampler.Stopping

/-!
# The spacing of passes

A thread that is late makes its next pass early, and one that has missed passes makes some of them
up at once. It still never bursts: every pass moves the deadline on by a whole interval, and no pass
is decided on more than an interval after its deadline, as this would have been moved first.

What is spaced in this way are the decisions. Between a decision and its pass the thread does not
look at the clock, and time that goes by there brings the pass closer to those after it.
-/

namespace SystemMetrics.SamplerLoop

open Relation (ReflTransGen)

variable {l m : SamplerLoop} {interval : Nat} {mayElapse : SamplerPlace → Prop}
  {decisions : List Nat}

/-! ## Runs -/

/-- The time of a decision, if the section from `l` to `m` takes one. -/
def decision (l m : SamplerLoop) : List Nat := if m.place = .decided then [l.thread.now] else []

/-- The loops that steps in any order lead to, with the times at which their passes were decided on:
the first one at the beginning, the others at the end of a wait. Where time may go by is up to
`mayElapse`. -/
inductive Run (interval : Nat) (mayElapse : SamplerPlace → Prop) : List Nat → SamplerLoop → Prop
  | begin (beganAt : Nat) (durations : List Nat) (panicsAt : Option Nat) :
      Run interval mayElapse [beganAt] (start interval beganAt durations panicsAt)
  | next {decisions : List Nat} {l m : SamplerLoop} (h : Run interval mayElapse decisions l)
      (hnext : l.next? = some m) : Run interval mayElapse (decisions ++ decision l m) m
  | wake {decisions : List Nat} {l : SamplerLoop} (h : Run interval mayElapse decisions l) :
      Run interval mayElapse decisions l.wake
  | stop {decisions : List Nat} {l : SamplerLoop} (h : Run interval mayElapse decisions l) :
      Run interval mayElapse decisions l.stop
  | join {decisions : List Nat} {l m : SamplerLoop} (h : Run interval mayElapse decisions l)
      (hjoin : l.join? = some m) : Run interval mayElapse decisions m
  | elapse {decisions : List Nat} {l : SamplerLoop} (h : Run interval mayElapse decisions l)
      (span : Nat) (hspan : mayElapse l.place) : Run interval mayElapse decisions (l.elapse span)

/-- Where time may go by at any place, there is nothing that steps lead to but runs. -/
theorem exists_run {beganAt : Nat} {durations : List Nat} {panicsAt : Option Nat}
    (h : ReflTransGen Step (start interval beganAt durations panicsAt) l) :
    ∃ decisions, Run interval (fun _ => True) decisions l := by
  induction h with
  | refl => exact ⟨_, .begin beganAt durations panicsAt⟩
  | tail _ hstep ih =>
    obtain ⟨decisions, hrun⟩ := ih
    cases hstep with
    | thread hnext => exact ⟨_, hrun.next hnext⟩
    | wake => exact ⟨_, hrun.wake⟩
    | stop => exact ⟨_, hrun.stop⟩
    | join hjoin => exact ⟨_, hrun.join hjoin⟩
    | elapse span => exact ⟨_, hrun.elapse span trivial⟩

theorem Run.proceed (h : Run interval mayElapse decisions l) (count : Nat) :
    ∃ decisions, Run interval mayElapse decisions (l.proceed count) := by
  induction count generalizing decisions l with
  | zero => exact ⟨_, h⟩
  | succ count ih =>
    rw [SamplerLoop.proceed]
    split
    · exact ⟨_, h⟩
    · rename_i hnext
      exact ih (h.next hnext)

/-! ## Decisions and passes -/

/-- The passes, with one that has been decided on as if it began now. -/
def begins (l : SamplerLoop) : List Nat :=
  l.thread.passTimes ++ if l.place = .decided then [l.thread.now] else []

theorem begins_eq (hthread : m.thread.passTimes = l.thread.passTimes)
    (hl : l.place ≠ .decided) (hm : m.place ≠ .decided) : m.begins = l.begins := by
  rw [begins, begins, hthread, if_neg hl, if_neg hm]

theorem begins_next (h : Section l m) : m.begins = l.begins ++ decision l m := by
  have hundecided (hm : m.place ≠ .decided) (h : m.begins = l.begins) :
      m.begins = l.begins ++ decision l m := by
    rw [decision, if_neg hm, List.append_nil, h]
  cases h with
  | begin hplace =>
    refine hundecided nofun ?_
    simp [begins, hplace]
  | decide hplace => simp [begins, decision, hplace]
  | finish hplace | abort hplace | park hplace | resume hplace | exit hplace =>
    exact hundecided nofun (begins_eq rfl (by rw [hplace]; exact nofun) nofun)
  | leave hplace =>
    refine hundecided nofun (begins_eq rfl ?_ nofun)
    rcases hplace with hplace | hplace | ⟨hplace, -⟩ <;> rw [hplace] <;> exact nofun

@[simp] theorem begins_wake (l : SamplerLoop) : l.wake.begins = l.begins := by
  simp only [begins, thread_wake, place_wake_eq_iff .decided nofun]

@[simp] theorem begins_stop (l : SamplerLoop) : l.stop.begins = l.begins := by
  simp only [begins, thread_stop, place_stop_eq_iff .decided nofun]

/-- The clock stands still between the end of a wait and its pass. -/
def Prompt (mayElapse : SamplerPlace → Prop) : Prop := ¬ mayElapse .decided

/-- A decision at `w` leads to a pass at `a`, at the same time if passes are prompt. -/
def Leads (mayElapse : SamplerPlace → Prop) (w a : Nat) : Prop :=
  w ≤ a ∧ (Prompt mayElapse → w = a)

theorem leads_self (w : Nat) : Leads mayElapse w w := ⟨Nat.le_refl w, fun _ => rfl⟩

theorem forall₂_last {R : Nat → Nat → Prop} {ws as : List Nat} {a b : Nat}
    (h : List.Forall₂ R ws (as ++ [a])) (hab : ∀ w, R w a → R w b) :
    List.Forall₂ R ws (as ++ [b]) := by
  induction as generalizing ws with
  | nil =>
    cases h with
    | cons hw hws => exact .cons (hab _ hw) hws
  | cons x as ih =>
    cases h with
    | cons hw hws => exact .cons hw (ih hws)

theorem Run.leads (h : Run interval mayElapse decisions l) :
    List.Forall₂ (Leads mayElapse) decisions l.begins := by
  induction h with
  | begin beganAt => exact .cons (leads_self beganAt) .nil
  | next _ hnext ih =>
    rw [begins_next (section_of_next? hnext)]
    exact List.rel_append ih (List.forall₂_same.mpr fun w _ => leads_self w)
  | wake _ ih => rwa [begins_wake]
  | stop _ ih => rwa [begins_stop]
  | join _ hjoin ih =>
    obtain ⟨-, rfl⟩ := join?_eq_some hjoin
    exact ih
  | @elapse _ l _ span hspan ih =>
    by_cases hplace : l.place = .decided
    · rw [begins, if_pos hplace] at ih
      rw [begins, if_pos (show (l.elapse span).place = .decided from hplace)]
      refine forall₂_last ih fun w hw => ⟨Nat.le_add_right_of_le hw.1, fun hprompt => ?_⟩
      exact absurd (hplace ▸ hspan) hprompt
    · have hsame : (l.elapse span).begins = l.begins := begins_eq rfl hplace hplace
      rwa [hsame]

/-- Every pass has its decision. -/
theorem Run.exists_decision (h : Run interval mayElapse decisions l) {k a : Nat}
    (ha : l.thread.passTimes[k]? = some a) :
    ∃ w, decisions[k]? = some w ∧ Leads mayElapse w a := by
  obtain ⟨hlength, hleads⟩ := List.forall₂_iff_get.mp h.leads
  have hbegins : l.begins[k]? = some a := by
    rw [begins, List.getElem?_append_left (List.getElem?_eq_some_iff.mp ha).1, ha]
  obtain ⟨hk, rfl⟩ := List.getElem?_eq_some_iff.mp hbegins
  have hk' : k < decisions.length := by omega
  exact ⟨_, List.getElem?_eq_getElem hk', hleads k hk' hk⟩

/-! ## Spacing -/

/-- The deadline is as many intervals after each of some times as there are times from there on, and
any two of them are apart by as many intervals as there are times between them. -/
structure Spaced (interval : Nat) (times : List Nat) (deadline : Nat) : Prop where
  behind : ∀ (i a : Nat), times[i]? = some a →
    a + (times.length - 1 - i) * interval ≤ deadline
  apart : ∀ (i j a b : Nat), i < j → times[i]? = some a → times[j]? = some b →
    a + (j - i - 1) * interval ≤ b

/-- One more time, at the deadline or later, for which the deadline moves on by an interval. -/
theorem Spaced.concat {times : List Nat} {now deadline next : Nat}
    (h : Spaced interval times deadline) (hdue : deadline ≤ now)
    (hnext : deadline + interval ≤ next) (hlate : now ≤ next) :
    Spaced interval (times ++ [now]) next := by
  have hcases {i a : Nat} (ha : (times ++ [now])[i]? = some a) :
      times[i]? = some a ∧ i < times.length ∨ i = times.length ∧ a = now := by
    by_cases hi : i < times.length
    · rw [List.getElem?_append_left hi] at ha
      exact .inl ⟨ha, hi⟩
    · have hlength := (List.getElem?_eq_some_iff.mp ha).1
      rw [List.length_append, List.length_singleton] at hlength
      obtain rfl : i = times.length := by omega
      rw [List.getElem?_concat_length, Option.some.injEq] at ha
      exact .inr ⟨rfl, ha.symm⟩
  constructor
  · intro i a ha
    rw [List.length_append, List.length_singleton]
    rcases hcases ha with ⟨hold, hi⟩ | ⟨rfl, rfl⟩
    · have hbehind := h.behind i a hold
      rw [show times.length + 1 - 1 - i = times.length - 1 - i + 1 by omega, Nat.succ_mul]
      omega
    · rw [Nat.add_sub_cancel, Nat.sub_self, Nat.zero_mul]
      exact hlate
  · intro i j a b hij ha hb
    rcases hcases ha with ⟨hold, -⟩ | ⟨rfl, -⟩
    · rcases hcases hb with ⟨hlater, -⟩ | ⟨rfl, rfl⟩
      · exact h.apart i j a b hij hold hlater
      · rw [Nat.sub_right_comm]
        exact Nat.le_trans (h.behind i a hold) hdue
    · have hlength := (List.getElem?_eq_some_iff.mp hb).1
      rw [List.length_append, List.length_singleton] at hlength
      omega

/-- The deadline of the wait after the passes that have been decided on. -/
def nextDeadline (l : SamplerLoop) : Nat :=
  match l.place with
  | .decided | .passing => l.thread.deadline + l.thread.interval
  | _ => l.thread.deadline

theorem nextDeadline_next (h : Section l m) :
    decision l m = [] ∧ m.nextDeadline = l.nextDeadline ∨
      decision l m = [l.thread.now] ∧ l.nextDeadline ≤ l.thread.now ∧
        l.nextDeadline + l.thread.interval ≤ m.nextDeadline ∧ l.thread.now ≤ m.nextDeadline := by
  cases h with
  | begin hplace | finish hplace | abort hplace =>
    exact .inl ⟨rfl, by rw [nextDeadline, nextDeadline, hplace]; rfl⟩
  | park hplace | resume hplace | exit hplace =>
    exact .inl ⟨rfl, by rw [nextDeadline, nextDeadline, hplace]⟩
  | leave hplace =>
    refine .inl ⟨rfl, ?_⟩
    rcases hplace with hplace | hplace | ⟨hplace, -⟩ <;> rw [nextDeadline, nextDeadline, hplace]
  | decide hplace _ hdue =>
    refine .inr ⟨rfl, ?_⟩
    simp only [nextDeadline, hplace, SamplerThread.interval_catchUp]
    exact ⟨hdue, Nat.add_le_add_right (SamplerThread.deadline_le_catchUp hdue) _,
      SamplerThread.now_le_deadline_catchUp l.thread⟩

@[simp] theorem nextDeadline_wake (l : SamplerLoop) : l.wake.nextDeadline = l.nextDeadline := by
  unfold wake
  split
  · rename_i hplace
    rw [nextDeadline, nextDeadline, hplace]
  · rfl

@[simp] theorem nextDeadline_stop (l : SamplerLoop) : l.stop.nextDeadline = l.nextDeadline := by
  by_cases hheld : l.handle = .held
  · rw [stop_of_held hheld]
    exact nextDeadline_wake l
  · rw [stop_of_not_held hheld]

theorem interval_next (h : Section l m) : m.thread.interval = l.thread.interval := by
  cases h with
  | decide => exact SamplerThread.interval_catchUp l.thread
  | begin | finish | abort | park | leave | resume | exit => rfl

theorem Run.interval_eq (h : Run interval mayElapse decisions l) : l.thread.interval = interval := by
  induction h with
  | begin => rfl
  | next _ hnext ih => rw [interval_next (section_of_next? hnext), ih]
  | wake _ ih => rw [thread_wake, ih]
  | stop _ ih => rw [thread_stop, ih]
  | join _ hjoin ih =>
    obtain ⟨-, rfl⟩ := join?_eq_some hjoin
    exact ih
  | elapse _ _ _ ih => exact ih

theorem Run.spaced (h : Run interval mayElapse decisions l) :
    Spaced interval decisions l.nextDeadline := by
  induction h with
  | begin beganAt durations panicsAt =>
    have hnone : Spaced interval [] beganAt := ⟨nofun, nofun⟩
    exact hnone.concat (Nat.le_refl _) (Nat.le_refl _) (Nat.le_add_right _ _)
  | next h hnext ih =>
    rcases nextDeadline_next (section_of_next? hnext) with ⟨hnone, hsame⟩ | ⟨hsome, hdue, hmoved, hlate⟩
    · rwa [hnone, List.append_nil, hsame]
    · rw [h.interval_eq] at hmoved
      rw [hsome]
      exact ih.concat hdue hmoved hlate
  | wake _ ih => rwa [nextDeadline_wake]
  | stop _ ih => rwa [nextDeadline_stop]
  | join _ hjoin ih =>
    obtain ⟨-, rfl⟩ := join?_eq_some hjoin
    exact ih
  | elapse _ _ _ ih => exact ih

/-- A thread never bursts, however late it is, however often it is woken and wherever time goes by.
Each pass begins at the time of a decision or later, and the `n`-th pass after it begins at least
`n - 1` intervals after this decision. So where the clock stands still between the end of a wait and
its pass, the `n`-th pass after any pass begins at least `n - 1` intervals later, and the second one
at least one interval. `heldUp_not_apart` is what can happen elsewhere. -/
theorem Run.passes_apart (h : Run interval mayElapse decisions l) :
    (∀ k a, l.thread.passTimes[k]? = some a → ∃ w, decisions[k]? = some w ∧ w ≤ a ∧
      ∀ n b, 1 ≤ n → l.thread.passTimes[k + n]? = some b → w + (n - 1) * interval ≤ b) ∧
    (Prompt mayElapse → ∀ k a, l.thread.passTimes[k]? = some a →
      (∀ n b, 1 ≤ n → l.thread.passTimes[k + n]? = some b → a + (n - 1) * interval ≤ b) ∧
      ∀ b, l.thread.passTimes[k + 2]? = some b → a + interval ≤ b) := by
  have hdecided (k a : Nat) (ha : l.thread.passTimes[k]? = some a) :
      ∃ w, decisions[k]? = some w ∧ Leads mayElapse w a ∧
        ∀ n b, 1 ≤ n → l.thread.passTimes[k + n]? = some b → w + (n - 1) * interval ≤ b := by
    obtain ⟨w, hw, hleads⟩ := h.exists_decision ha
    refine ⟨w, hw, hleads, fun n b hn hb => ?_⟩
    obtain ⟨v, hv, hbegun, -⟩ := h.exists_decision hb
    have hapart := h.spaced.apart k (k + n) w v (by omega) hw hv
    rw [Nat.add_sub_cancel_left] at hapart
    exact Nat.le_trans hapart hbegun
  refine ⟨fun k a ha => ?_, fun hprompt k a ha => ?_⟩
  · obtain ⟨w, hw, hleads, hafter⟩ := hdecided k a ha
    exact ⟨w, hw, hleads.1, hafter⟩
  · obtain ⟨w, -, hleads, hafter⟩ := hdecided k a ha
    obtain rfl := hleads.2 hprompt
    refine ⟨hafter, fun b hb => ?_⟩
    have htwo := hafter 2 b (by decide) hb
    rwa [Nat.one_mul] at htwo

/-- A thread whose first pass takes 50, and which is woken and then late by 70. -/
def late : SamplerLoop :=
  start 30 0 [50] none |>.proceed 9 |>.wake |>.proceed 9 |>.elapse 10 |>.proceed 9 |>.elapse 100
    |>.proceed 9

theorem passes_apart_late :
    ∃ decisions, Run 30 (· ≠ .decided) decisions late ∧
      late.thread.passTimes = [0, 50, 60, 160] ∧
      ∀ k a b, late.thread.passTimes[k]? = some a → late.thread.passTimes[k + 2]? = some b →
        a + 30 ≤ b := by
  have hbegin : Run 30 (· ≠ .decided) [0] (start 30 0 [50] none) := .begin 0 [50] none
  obtain ⟨_, hfirst⟩ := hbegin.proceed 9
  obtain ⟨_, hwoken⟩ := hfirst.wake.proceed 9
  obtain ⟨_, hdue⟩ := (hwoken.elapse 10 (by decide)).proceed 9
  obtain ⟨decisions, hlate⟩ := (hdue.elapse 100 (by decide)).proceed 9
  have hprompt : Prompt (· ≠ .decided) := fun h => h rfl
  obtain ⟨-, hapart⟩ := Run.passes_apart hlate
  exact ⟨decisions, hlate, rfl, fun k a b ha hb => (hapart hprompt k a ha).2 b hb⟩

/-- A thread that has decided on its second pass at 10 and begins it at 25. The third pass is due
since 20 and follows at once, the fourth at 30. -/
def heldUp : SamplerLoop :=
  start 10 0 [] none |>.proceed 3 |>.elapse 10 |>.proceed 1 |>.elapse 15 |>.proceed 9 |>.elapse 5
    |>.proceed 9

/-- Where time goes by between a decision and its pass, three passes can fall into less than an
interval. -/
theorem heldUp_not_apart :
    ∃ decisions, Run 10 (fun _ => True) decisions heldUp ∧
      heldUp.thread.passTimes = [0, 25, 25, 30] ∧
      ¬ ∀ k a b, heldUp.thread.passTimes[k]? = some a →
        heldUp.thread.passTimes[k + 2]? = some b → a + 10 ≤ b := by
  have hbegin : Run 10 (fun _ => True) [0] (start 10 0 [] none) := .begin 0 [] none
  obtain ⟨_, hfirst⟩ := hbegin.proceed 3
  obtain ⟨_, hdecided⟩ := (hfirst.elapse 10 trivial).proceed 1
  obtain ⟨_, hheld⟩ := (hdecided.elapse 15 trivial).proceed 9
  obtain ⟨decisions, hlast⟩ := (hheld.elapse 5 trivial).proceed 9
  exact ⟨decisions, hlast, rfl, fun hapart => absurd (hapart 1 25 30 rfl rfl) (by decide)⟩

end SystemMetrics.SamplerLoop
