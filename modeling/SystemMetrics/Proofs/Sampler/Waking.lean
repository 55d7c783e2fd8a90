import SystemMetrics.Proofs.Sampler.Stopping

/-!
# Waking a sampling thread

A notification ends a wait without a pass, so the thread waits for the same deadline again, and if
that has come by now, the new wait ends at once. What the thread comes to when it is blocked again
is therefore settled by the times that have gone by, and no notification can change it.
-/

namespace SystemMetrics

namespace SamplerThread

variable {t : SamplerThread}

@[simp] theorem panicked_catchUp (t : SamplerThread) : t.catchUp.panicked = t.panicked := by
  unfold catchUp
  split <;> rfl

@[simp] theorem panicsAt_catchUp (t : SamplerThread) : t.catchUp.panicsAt = t.panicsAt := by
  unfold catchUp
  split <;> rfl

/-! ## Passes until the thread waits -/

/-- A thread that waits makes no further pass. -/
theorem settle_add {bound : Nat} (h : (settle bound t).isDue = false) (more : Nat) :
    settle (bound + more) t = settle bound t := by
  induction bound generalizing t with
  | zero =>
    rw [settle] at h
    cases more with
    | zero => rfl
    | succ more => rw [Nat.zero_add, settle, settle, h, if_neg Bool.false_ne_true]
  | succ bound ih =>
    rw [Nat.succ_add, settle, settle]
    by_cases hdue : t.isDue
    · rw [settle, if_pos hdue] at h
      rw [if_pos hdue, if_pos hdue]
      exact ih h
    · rw [if_neg hdue, if_neg hdue]

theorem settle_eq_run (hinterval : 0 < t.interval) {bound : Nat}
    (hbound : t.durations.length + 2 ≤ bound) : settle bound t = t.run := by
  have hwaits := isDue_settle hinterval (Nat.le_refl (t.durations.length + 2))
  obtain ⟨more, rfl⟩ := Nat.exists_eq_add_of_le hbound
  rw [settle_add hwaits, run, settleBound, show t.durations.length + 3 = t.durations.length + 2 + 1
    from rfl, settle_add hwaits]

theorem run_of_not_due (h : t.isDue = false) : t.run = t := by
  rw [run, settleBound, settle, h, if_neg Bool.false_ne_true]

theorem run_of_due (hinterval : 0 < t.interval) (h : t.isDue = true) :
    t.run = t.catchUp.pass.run := by
  have hpositive : 0 < t.catchUp.pass.interval := by simpa using hinterval
  have hbound : t.catchUp.pass.durations.length + 2 ≤ t.durations.length + 2 := by simp
  rw [← settle_eq_run hpositive hbound, run, settleBound, settle, if_pos h]

/-- What is added to the passes until the thread waits. -/
theorem passTimes_settle (bound : Nat) (t : SamplerThread) :
    ∃ later, (settle bound t).passTimes = t.passTimes ++ later ∧ later.length ≤ bound := by
  induction bound generalizing t with
  | zero => exact ⟨[], (List.append_nil _).symm, Nat.le_refl 0⟩
  | succ bound ih =>
    rw [settle]
    split
    · obtain ⟨later, hlater, hlength⟩ := ih t.catchUp.pass
      refine ⟨t.now :: later, ?_, Nat.succ_le_succ hlength⟩
      rw [hlater, passTimes_pass, passTimes_catchUp, now_catchUp, List.append_assoc]
      rfl
    · exact ⟨[], (List.append_nil _).symm, Nat.zero_le _⟩

theorem passTimes_run (hinterval : 0 < t.interval) :
    ∃ later, t.run.passTimes = t.passTimes ++ later ∧ later.length ≤ t.durations.length + 2 := by
  rw [← settle_eq_run hinterval (Nat.le_refl _)]
  exact passTimes_settle _ t

end SamplerThread

namespace SamplerLoop

variable {l m : SamplerLoop} {interval beganAt : Nat} {durations spans : List Nat}
  {panicsAt : Option Nat}

/-! ## A thread that nobody stops -/

/-- The flag is not set, and the thread is at its end exactly if a pass has panicked. -/
structure Unstopped (interval : Nat) (panicsAt : Option Nat) (l : SamplerLoop) : Prop where
  interval_eq : l.thread.interval = interval
  panicsAt_eq : l.thread.panicsAt = panicsAt
  terminate_eq : l.terminate = false
  place_ne : l.place ≠ .leaving
  panicked_iff : l.thread.panicked = true ↔ l.place = .exited
  panics : l.place = .exited → panicsAt ≠ none

theorem unstopped_start (interval beganAt : Nat) (durations : List Nat) (panicsAt : Option Nat) :
    Unstopped interval panicsAt (start interval beganAt durations panicsAt) :=
  ⟨rfl, rfl, rfl, nofun, ⟨nofun, nofun⟩, nofun⟩

/-- What the thread comes to when it is blocked, or at its end, if it is left alone. -/
def outcome (l : SamplerLoop) : SamplerThread :=
  match l.place with
  | .decided => l.thread.pass.run
  | .passing => l.thread.endPass.run
  | .unlocked | .parked _ => l.thread.run
  | .leaving | .exited => l.thread

theorem outcome_wake (l : SamplerLoop) : l.wake.outcome = l.outcome := by
  unfold wake
  split
  · rename_i notified hplace
    rw [outcome, outcome, hplace]
  · rfl

theorem Unstopped.wake (h : Unstopped interval panicsAt l) :
    Unstopped interval panicsAt l.wake where
  interval_eq := by rw [thread_wake, h.interval_eq]
  panicsAt_eq := by rw [thread_wake, h.panicsAt_eq]
  terminate_eq := by rw [terminate_wake, h.terminate_eq]
  place_ne := fun hplace => h.place_ne ((place_wake_eq_iff .leaving nofun).mp hplace)
  panicked_iff := by rw [thread_wake, place_wake_eq_iff .exited nofun, h.panicked_iff]
  panics := fun hplace => h.panics ((place_wake_eq_iff .exited nofun).mp hplace)

theorem Unstopped.not_panicked (h : Unstopped interval panicsAt l) (hplace : l.place ≠ .exited) :
    l.thread.panicked = false := by
  rw [Bool.eq_false_iff]
  exact fun hpanicked => hplace (h.panicked_iff.mp hpanicked)

theorem Unstopped.next (h : Unstopped interval panicsAt l) (hsection : Section l m) :
    Unstopped interval panicsAt m := by
  have hpanicked := h.panicked_iff
  obtain ⟨hinterval, hpanicsAt, hterminate, hleaving, -, -⟩ := h
  cases hsection with
  | begin hplace | park hplace | resume hplace =>
    rw [hplace] at hpanicked
    exact ⟨hinterval, hpanicsAt, hterminate, nofun, hpanicked.trans ⟨nofun, nofun⟩, nofun⟩
  | finish hplace hfinished =>
    refine ⟨hinterval, hpanicsAt, hterminate, nofun, ?_, nofun⟩
    rw [hfinished]
    exact ⟨nofun, nofun⟩
  | abort hplace haborted =>
    refine ⟨hinterval, hpanicsAt, hterminate, nofun, ⟨fun _ => rfl, fun _ => haborted⟩, ?_⟩
    rintro - rfl
    rw [SamplerThread.endPass, hpanicsAt] at haborted
    cases haborted
  | decide hplace =>
    rw [hplace] at hpanicked
    refine ⟨?_, ?_, hterminate, nofun, ?_, nofun⟩
    · rw [SamplerThread.interval_catchUp, hinterval]
    · rw [SamplerThread.panicsAt_catchUp, hpanicsAt]
    · rw [SamplerThread.panicked_catchUp]
      exact hpanicked.trans ⟨nofun, nofun⟩
  | leave _ hstopped =>
    rw [hterminate] at hstopped
    cases hstopped
  | exit hplace => exact absurd hplace hleaving

theorem Unstopped.outcome_next (hinterval : 0 < interval) (h : Unstopped interval panicsAt l)
    (hsection : Section l m) : m.outcome = l.outcome := by
  cases hsection with
  | begin hplace =>
    rw [outcome, outcome, hplace]
    exact congrArg SamplerThread.run (SamplerThread.endPass_beginPass l.thread)
  | finish hplace | park hplace | resume hplace => rw [outcome, outcome, hplace]
  | abort hplace haborted =>
    rw [outcome, outcome, hplace]
    exact (SamplerThread.run_of_not_due (by rw [SamplerThread.isDue, haborted]; rfl)).symm
  | decide hplace _ hdue =>
    have hpanicked := h.not_panicked (by simp [hplace])
    have hpositive : 0 < l.thread.interval := h.interval_eq.symm ▸ hinterval
    rw [outcome, outcome, hplace]
    exact (SamplerThread.run_of_due hpositive
      ((SamplerThread.isDue_iff _).mpr ⟨hpanicked, hdue⟩)).symm
  | leave _ hstopped =>
    rw [h.terminate_eq] at hstopped
    cases hstopped
  | exit hplace => exact absurd hplace h.place_ne

/-! ## Blocked threads -/

/-- The thread is blocked until a notification or its deadline comes, or it is at its end. -/
def AtRest (l : SamplerLoop) : Prop := l.next? = none

instance (l : SamplerLoop) : Decidable l.AtRest := inferInstanceAs (Decidable (l.next? = none))

theorem atRest_iff (l : SamplerLoop) :
    l.AtRest ↔ l.place = .exited ∨ l.place = .parked false ∧ l.thread.now < l.thread.deadline := by
  obtain ⟨thread, place, terminate, handle⟩ := l
  cases place with
  | parked notified =>
    cases notified with
    | true => cases terminate <;> simp [AtRest, next?]
    | false =>
      by_cases hwaits : thread.now < thread.deadline <;> cases terminate <;>
        simp [AtRest, next?, hwaits]
  | decided | passing | unlocked | leaving | exited => simp [AtRest, next?]

theorem AtRest.not_due (h : AtRest l) (hunstopped : Unstopped interval panicsAt l) :
    l.thread.isDue = false := by
  rw [Bool.eq_false_iff, ne_eq, SamplerThread.isDue_iff]
  rintro ⟨hpanicked, hdue⟩
  rcases (atRest_iff l).mp h with hexited | ⟨-, hwaits⟩
  · rw [hunstopped.panicked_iff.mpr hexited] at hpanicked
    cases hpanicked
  · omega

theorem AtRest.outcome_eq (h : AtRest l) (hunstopped : Unstopped interval panicsAt l) :
    l.outcome = l.thread := by
  rcases (atRest_iff l).mp h with hexited | ⟨hparked, -⟩
  · rw [outcome, hexited]
  · rw [outcome, hparked]
    exact SamplerThread.run_of_not_due (h.not_due hunstopped)

theorem AtRest.outcome_elapse (h : AtRest l) (hunstopped : Unstopped interval panicsAt l)
    (span : Nat) : (l.elapse span).outcome = l.thread.advance span := by
  obtain ⟨thread, place, terminate, handle⟩ := l
  rcases (atRest_iff _).mp h with hexited | ⟨hparked, -⟩
  · have hpanicked : thread.panicked = true := hunstopped.panicked_iff.mpr hexited
    obtain rfl : place = .exited := hexited
    have hover : ({ thread with now := thread.now + span } : SamplerThread).isDue = false := by
      rw [SamplerThread.isDue, hpanicked]
      rfl
    exact (SamplerThread.run_of_not_due hover).symm
  · obtain rfl : place = .parked false := hparked
    rfl

/-! ## Coming to rest -/

/-- The thread comes to rest by its own sections alone. -/
def ComesToRest (l : SamplerLoop) : Prop := ∃ count, (l.proceed count).AtRest

theorem AtRest.comesToRest (h : AtRest l) : ComesToRest l := ⟨0, h⟩

theorem ComesToRest.of_section (h : ComesToRest m) (hsection : Section l m) : ComesToRest l := by
  obtain ⟨count, hrest⟩ := h
  refine ⟨count + 1, ?_⟩
  rw [proceed, hsection.next?_eq]
  exact hrest

/-- A pass that has begun ends, and unless it panics the thread goes on to wait. -/
theorem comesToRest_passing (h : Unstopped interval panicsAt l) (hplace : l.place = .passing)
    (hafter : ∀ m, Unstopped interval panicsAt m → m.place = .unlocked →
      m.thread = l.thread.endPass → ComesToRest m) : ComesToRest l := by
  cases hpanicked : l.thread.endPass.panicked with
  | false =>
    have hfinish := Section.finish hplace hpanicked
    exact (hafter _ (h.next hfinish) rfl rfl).of_section hfinish
  | true =>
    have hrest : AtRest { l with thread := l.thread.endPass, place := .exited } := rfl
    exact hrest.comesToRest.of_section (.abort hplace hpanicked)

theorem comesToRest_decided (h : Unstopped interval panicsAt l) (hplace : l.place = .decided)
    (hafter : ∀ m, Unstopped interval panicsAt m → m.place = .unlocked →
      m.thread = l.thread.pass → ComesToRest m) : ComesToRest l := by
  have hbegin := Section.begin hplace
  exact (comesToRest_passing (h.next hbegin) rfl hafter).of_section hbegin

theorem comesToRest_parked (h : Unstopped interval panicsAt l) (hplace : l.place = .parked false)
    (hafter : l.thread.isDue = true → ∀ m, Unstopped interval panicsAt m → m.place = .unlocked →
      m.thread = l.thread.catchUp.pass → ComesToRest m) : ComesToRest l := by
  by_cases hdue : l.thread.deadline ≤ l.thread.now
  · have hpanicked := h.not_panicked (by simp [hplace])
    have hdecide := Section.decide hplace h.terminate_eq hdue
    exact (comesToRest_decided (h.next hdecide) rfl
      (hafter ((SamplerThread.isDue_iff _).mpr ⟨hpanicked, hdue⟩))).of_section hdecide
  · exact AtRest.comesToRest ((atRest_iff l).mpr (Or.inr ⟨hplace, Nat.not_le.mp hdue⟩))

/-- The induction is on the passes before the thread waits; each takes the thread once through its
loop. -/
theorem comesToRest_unlocked {bound : Nat} (h : Unstopped interval panicsAt l)
    (hplace : l.place = .unlocked) (hwaits : (SamplerThread.settle bound l.thread).isDue = false) :
    ComesToRest l := by
  induction bound generalizing l with
  | zero =>
    have hpark := Section.park hplace h.terminate_eq
    refine (comesToRest_parked (h.next hpark) rfl fun hdue => ?_).of_section hpark
    cases hwaits.symm.trans hdue
  | succ bound ih =>
    have hpark := Section.park hplace h.terminate_eq
    refine (comesToRest_parked (h.next hpark) rfl fun hdue m hm hplace' hthread => ?_).of_section
      hpark
    rw [SamplerThread.settle, if_pos hdue, ← hthread] at hwaits
    exact ih hm hplace' hwaits

/-- A thread with a positive interval comes to rest from wherever it stands. -/
theorem Unstopped.comesToRest (hinterval : 0 < interval) (h : Unstopped interval panicsAt l) :
    ComesToRest l := by
  have hunlocked (m : SamplerLoop) (hm : Unstopped interval panicsAt m)
      (hplace : m.place = .unlocked) : ComesToRest m := by
    have hpositive : 0 < m.thread.interval := hm.interval_eq.symm ▸ hinterval
    exact comesToRest_unlocked hm hplace (SamplerThread.isDue_settle hpositive (Nat.le_refl _))
  cases hplace : l.place with
  | decided => exact comesToRest_decided h hplace fun m hm hplace' _ => hunlocked m hm hplace'
  | passing => exact comesToRest_passing h hplace fun m hm hplace' _ => hunlocked m hm hplace'
  | unlocked => exact hunlocked l h hplace
  | parked notified =>
    cases notified with
    | false => exact comesToRest_parked h hplace fun _ m hm hplace' _ => hunlocked m hm hplace'
    | true =>
      have hresume := Section.resume hplace h.terminate_eq
      exact (hunlocked _ (h.next hresume) rfl).of_section hresume
  | leaving => exact absurd hplace h.place_ne
  | exited => exact AtRest.comesToRest ((atRest_iff l).mpr (Or.inl hplace))

/-- The passes up to the time at which the thread is at rest. -/
theorem Unstopped.passTimes_outcome (hinterval : 0 < interval) (h : Unstopped interval panicsAt l) :
    ∃ later, l.outcome.passTimes = l.thread.passTimes ++ later ∧
      later.length ≤ l.thread.durations.length + 3 := by
  have hpositive : 0 < l.thread.interval := h.interval_eq.symm ▸ hinterval
  have htail : l.thread.durations.tail.length ≤ l.thread.durations.length := by simp
  rw [outcome]
  cases l.place with
  | decided =>
    obtain ⟨later, hlater, hlength⟩ := SamplerThread.passTimes_run (t := l.thread.pass) hpositive
    refine ⟨l.thread.now :: later, ?_, ?_⟩
    · rw [hlater, SamplerThread.passTimes_pass, List.append_assoc]
      rfl
    · rw [SamplerThread.durations_pass] at hlength
      rw [List.length_cons]
      omega
  | passing =>
    obtain ⟨later, hlater, hlength⟩ := SamplerThread.passTimes_run (t := l.thread.endPass) hpositive
    refine ⟨later, hlater, ?_⟩
    change later.length ≤ l.thread.durations.tail.length + 2 at hlength
    omega
  | unlocked | parked notified =>
    obtain ⟨later, hlater, hlength⟩ := SamplerThread.passTimes_run hpositive
    exact ⟨later, hlater, by omega⟩
  | leaving | exited => exact ⟨[], (List.append_nil _).symm, Nat.zero_le _⟩

/-! ## Runs -/

/-- The loops that the beginning leads to through sections and notifications in any order, with the
spans of time that have gone by. These go by while the thread is at rest. -/
inductive Follows (interval beganAt : Nat) (durations : List Nat) (panicsAt : Option Nat) :
    List Nat → SamplerLoop → Prop
  | begin : Follows interval beganAt durations panicsAt []
      (start interval beganAt durations panicsAt)
  | next {spans : List Nat} {l m : SamplerLoop}
      (h : Follows interval beganAt durations panicsAt spans l) (hnext : l.next? = some m) :
      Follows interval beganAt durations panicsAt spans m
  | wake {spans : List Nat} {l : SamplerLoop}
      (h : Follows interval beganAt durations panicsAt spans l) :
      Follows interval beganAt durations panicsAt spans l.wake
  | elapse {spans : List Nat} {l : SamplerLoop}
      (h : Follows interval beganAt durations panicsAt spans l) (hrest : l.AtRest) (span : Nat) :
      Follows interval beganAt durations panicsAt (spans ++ [span]) (l.elapse span)

theorem Follows.unstopped (h : Follows interval beganAt durations panicsAt spans l) :
    Unstopped interval panicsAt l := by
  induction h with
  | begin => exact unstopped_start interval beganAt durations panicsAt
  | next _ hnext ih => exact ih.next (section_of_next? hnext)
  | wake _ ih => exact ih.wake
  | elapse _ _ span ih =>
    exact ⟨ih.interval_eq, ih.panicsAt_eq, ih.terminate_eq, ih.place_ne, ih.panicked_iff,
      ih.panics⟩

/-- What the thread comes to is settled by the spans: it is the thread that is woken once after each
of them. -/
theorem Follows.outcome_eq (hinterval : 0 < interval)
    (h : Follows interval beganAt durations panicsAt spans l) :
    l.outcome = spans.foldl (fun t span => t.advance span)
      (start interval beganAt durations panicsAt).outcome := by
  induction h with
  | begin => rfl
  | next h hnext ih => rw [h.unstopped.outcome_next hinterval (section_of_next? hnext), ih]
  | wake _ ih => rw [outcome_wake, ih]
  | elapse h hrest span ih =>
    rw [hrest.outcome_elapse h.unstopped, List.foldl_append, ← ih, hrest.outcome_eq h.unstopped]
    rfl

theorem Follows.proceed (h : Follows interval beganAt durations panicsAt spans l) (count : Nat) :
    Follows interval beganAt durations panicsAt spans (l.proceed count) := by
  induction count generalizing l with
  | zero => exact h
  | succ count ih =>
    rw [SamplerLoop.proceed]
    split
    · exact h
    · rename_i m hnext
      exact ih (h.next hnext)

/-- A notification is invisible. Whatever notifications come between the sections of a thread, it
comes to rest after finitely many passes, those that take time and at most three more; it is then
blocked, unless a pass has panicked. Two threads that differ in their notifications only are the
same whenever both are at rest after the same spans of time, namely the thread that is woken once
after each of them, and until then no pass begins that does not begin at the same time without
the notifications. -/
theorem Follows.wakes_invisible (hinterval : 0 < interval)
    (h : Follows interval beganAt durations panicsAt spans l)
    (h' : Follows interval beganAt durations panicsAt spans m) :
    (∃ count, (l.proceed count).AtRest ∧
      (l.proceed count).thread.passTimes.length ≤
        l.thread.passTimes.length + l.thread.durations.length + 3 ∧
      (panicsAt = none → (l.proceed count).place = .parked false)) ∧
    (m.AtRest → l.thread.passTimes <+: m.thread.passTimes) ∧
    (l.AtRest → m.AtRest → l.thread = m.thread) ∧
    (l.AtRest → l.thread = spans.foldl (fun t span => t.advance span)
      (start interval beganAt durations panicsAt).thread.pass.run) := by
  have houtcome := h.outcome_eq hinterval
  have hsame : l.outcome = m.outcome := by
    rw [houtcome, h'.outcome_eq hinterval]
  obtain ⟨later, hlater, hlength⟩ := h.unstopped.passTimes_outcome hinterval
  refine ⟨?_, fun hrest' => ?_, fun hrest hrest' => ?_, fun hrest => ?_⟩
  · obtain ⟨count, hrest⟩ := h.unstopped.comesToRest hinterval
    have hproceed := h.proceed count
    have hthread : (l.proceed count).thread = l.outcome := by
      rw [← hrest.outcome_eq hproceed.unstopped, hproceed.outcome_eq hinterval, houtcome]
    refine ⟨count, hrest, ?_, fun hnone => ?_⟩
    · rw [hthread, hlater, List.length_append]
      omega
    · rcases (atRest_iff _).mp hrest with hexited | ⟨hparked, -⟩
      · exact absurd hnone (hproceed.unstopped.panics hexited)
      · exact hparked
  · rw [hrest'.outcome_eq h'.unstopped] at hsame
    rw [← hsame, hlater]
    exact List.prefix_append _ _
  · rw [← hrest.outcome_eq h.unstopped, hsame, hrest'.outcome_eq h'.unstopped]
  · rw [← hrest.outcome_eq h.unstopped]
    exact houtcome

/-- A thread that falls behind and is woken over and over, in the end just as it looks at the
control, makes the passes of one that nobody wakes. -/
theorem wakes_invisible_restless :
    let woken := (((start 30 0 [50] none).wake.proceed 3).wake.proceed 8).wake.wake.proceed 2
    let restless := (((woken.elapse 10).wake.proceed 1).wake.proceed 8).wake.proceed 8
    let l := (restless.elapse 100).wake.proceed 1
    let quiet := (((start 30 0 [50] none).proceed 8).elapse 10).proceed 8
    let m := (quiet.elapse 100).proceed 8
    (m.thread.passTimes = [0, 50, 60, 160] ∧ l.thread.passTimes <+: [0, 50, 60, 160]) ∧
    ∃ count, (l.proceed count).AtRest ∧ (l.proceed count).place = .parked false ∧
      (l.proceed count).thread = m.thread := by
  intro woken restless l quiet m
  have hwoken : Follows 30 0 [50] none [] woken :=
    ((Follows.begin.wake.proceed 3).wake.proceed 8).wake.wake.proceed 2
  have hrestless : Follows 30 0 [50] none [10] restless :=
    ((((hwoken.elapse (by decide +kernel) 10).wake.proceed 1).wake.proceed 8).wake.proceed 8)
  have hl : Follows 30 0 [50] none [10, 100] l :=
    (hrestless.elapse (by decide +kernel) 100).wake.proceed 1
  have hfirst : Follows 30 0 [50] none [] ((start 30 0 [50] none).proceed 8) :=
    Follows.begin.proceed 8
  have hquiet : Follows 30 0 [50] none [10] quiet := (hfirst.elapse rfl 10).proceed 8
  have hm : Follows 30 0 [50] none [10, 100] m := (hquiet.elapse (by decide +kernel) 100).proceed 8
  have htimes : m.thread.passTimes = [0, 50, 60, 160] := by decide
  have hrest' : m.AtRest := by decide +kernel
  obtain ⟨⟨count, hrest, -, hparked⟩, hprefix, -⟩ := hl.wakes_invisible (by decide) hm
  have hsame := ((hl.proceed count).wakes_invisible (by decide) hm).2.2.1 hrest hrest'
  exact ⟨⟨htimes, htimes ▸ hprefix hrest'⟩, count, hrest, hparked rfl, hsame⟩

end SamplerLoop

end SystemMetrics
