import SystemMetrics.Sampler.Thread

/-!
# The cadence of passes

Between two passes a thread is blocked until its deadline, and a notification only makes it wait
again. The deadline lies at most an interval after the start of the latest pass. While the clock
does not go beyond the deadline of a blocked thread, every pass is followed by the next one after an
interval or, if it takes longer, as soon as it is over; and while no pass takes longer than an
interval, the passes stand on a grid from which they never drift.
-/

namespace SystemMetrics.SamplerThread

variable {t : SamplerThread} {interval : Nat} {durations : List Nat}

@[simp] theorem interval_pass (t : SamplerThread) : t.pass.interval = t.interval := rfl

@[simp] theorem now_pass (t : SamplerThread) : t.pass.now = t.now + t.durations.headD 0 := rfl

@[simp] theorem deadline_pass (t : SamplerThread) : t.pass.deadline = t.deadline + t.interval := rfl

@[simp] theorem durations_pass (t : SamplerThread) : t.pass.durations = t.durations.tail := rfl

@[simp] theorem passTimes_pass (t : SamplerThread) : t.pass.passTimes = t.passTimes ++ [t.now] := by
  simp [passTimes, pass]

@[simp] theorem passTimes_catchUp (t : SamplerThread) : t.catchUp.passTimes = t.passTimes := by
  unfold catchUp
  split <;> rfl

@[simp] theorem now_catchUp (t : SamplerThread) : t.catchUp.now = t.now := by
  unfold catchUp
  split <;> rfl

@[simp] theorem durations_catchUp (t : SamplerThread) : t.catchUp.durations = t.durations := by
  unfold catchUp
  split <;> rfl

@[simp] theorem interval_catchUp (t : SamplerThread) : t.catchUp.interval = t.interval := by
  unfold catchUp
  split <;> rfl

theorem deadline_le_catchUp (h : t.deadline ≤ t.now) : t.deadline ≤ t.catchUp.deadline := by
  unfold catchUp
  split
  · exact h
  · exact Nat.le_refl _

theorem deadline_catchUp_le (h : t.deadline ≤ t.now) : t.catchUp.deadline ≤ t.now := by
  unfold catchUp
  split
  · exact Nat.le_refl _
  · exact h

theorem now_le_deadline_catchUp (t : SamplerThread) :
    t.now ≤ t.catchUp.deadline + t.interval := by
  unfold catchUp
  split
  · exact Nat.le_add_right _ _
  · omega

theorem isDue_iff (t : SamplerThread) :
    t.isDue = true ↔ t.panicked = false ∧ t.deadline ≤ t.now := by
  simp [isDue]

/-! ## Waiting -/

/-- A pass that takes no time is followed by at most one more before the thread waits. -/
theorem isDue_settle_of_le (hinterval : 0 < t.interval) (hnone : t.durations = [])
    (hle : t.now ≤ t.deadline) {bound : Nat} (hbound : 1 ≤ bound) :
    (settle bound t).isDue = false := by
  obtain ⟨n, rfl⟩ : ∃ n, bound = n + 1 := ⟨bound - 1, by omega⟩
  rw [settle]
  by_cases hdue : t.isDue
  · have hdeadline := ((isDue_iff t).mp hdue).2
    have hcatch : t.catchUp = t := by
      rw [catchUp, if_neg (by omega)]
    have hwaits : t.pass.isDue = false := by
      rw [Bool.eq_false_iff, ne_eq, isDue_iff]
      simp only [now_pass, deadline_pass, hnone, List.headD_nil]
      omega
    rw [if_pos hdue, hcatch]
    cases n with
    | zero => exact hwaits
    | succ n => rw [settle, hwaits]; simpa using hwaits
  · rw [if_neg hdue]
    simpa using hdue

theorem isDue_settle (hinterval : 0 < t.interval) {bound : Nat}
    (hbound : t.durations.length + 2 ≤ bound) : (settle bound t).isDue = false := by
  induction bound generalizing t with
  | zero => omega
  | succ n ih =>
    rw [settle]
    by_cases hdue : t.isDue
    · rw [if_pos hdue]
      have hpositive : 0 < t.catchUp.pass.interval := by
        simpa using hinterval
      cases hdurations : t.durations with
      | nil =>
        have hlate := now_le_deadline_catchUp t
        refine isDue_settle_of_le hpositive ?_ ?_ (by omega)
        · simp [hdurations]
        · simpa [hdurations] using hlate
      | cons d rest =>
        refine ih hpositive ?_
        simp only [hdurations, List.length_cons] at hbound
        simp only [durations_pass, durations_catchUp, hdurations, List.tail_cons]
        omega
    · rw [if_neg hdue]
      simpa using hdue

/-- A thread with a positive interval comes to wait, whatever its passes take. -/
theorem isDue_run (hinterval : 0 < t.interval) : t.run.isDue = false :=
  isDue_settle hinterval (by rw [settleBound]; omega)

/-! ## The cycle of passes and waits -/

/-- Lets time go by. -/
def elapse (span : Nat) (t : SamplerThread) : SamplerThread := { t with now := t.now + span }

/-- A thread in its cycle and, while it is blocked, the time at which it last began to wait. -/
structure Cycle where
  thread : SamplerThread
  waitsSince : Option Nat := none
  deriving DecidableEq, Repr

namespace Cycle

variable {c : Cycle} {mayElapse : SamplerThread → Nat → Prop}

def elapse (span : Nat) (c : Cycle) : Cycle := { c with thread := c.thread.elapse span }

/-- Notifies the thread. If it is blocked, its wait ends without a pass. -/
def wake (c : Cycle) : Cycle := { c with waitsSince := none }

/-- What the thread does of itself. A wait that began after the deadline, or has lasted until it,
ends with a pass. -/
def proceed (c : Cycle) : Cycle :=
  if c.thread.isDue then { thread := c.thread.catchUp.pass }
  else if c.thread.panicked then c
  else { c with waitsSince := some (c.waitsSince.getD c.thread.now) }

/-- The cycles that a first pass leads to, in any order of what the thread does of itself, of
notifications and of times that go by. How much time may go by is up to `mayElapse`. -/
inductive Run (interval : Nat) (durations : List Nat) (mayElapse : SamplerThread → Nat → Prop) :
    Cycle → Prop
  | start (beganAt : Nat) (panicsAt : Option Nat) : Run interval durations mayElapse
      { thread := pass { interval, now := beganAt, deadline := beganAt, durations, panicsAt } }
  | proceed {c : Cycle} (h : Run interval durations mayElapse c) :
      Run interval durations mayElapse c.proceed
  | wake {c : Cycle} (h : Run interval durations mayElapse c) :
      Run interval durations mayElapse c.wake
  | elapse {c : Cycle} (h : Run interval durations mayElapse c) (span : Nat)
      (hspan : mayElapse c.thread span) : Run interval durations mayElapse (c.elapse span)

/-! ### Threads that are advanced -/

/-- A thread that has come to wait just now. -/
def waiting (t : SamplerThread) : Cycle := { thread := t, waitsSince := some t.now }

theorem Run.settle (h : Run interval durations mayElapse c) (hwaits : c.waitsSince = none)
    (bound : Nat) :
    Run interval durations mayElapse { thread := settle bound c.thread } := by
  obtain ⟨t, _⟩ := c
  subst hwaits
  induction bound generalizing t with
  | zero => exact h
  | succ n ih =>
    rw [SamplerThread.settle]
    by_cases hdue : t.isDue
    · rw [if_pos hdue]
      have hpass := h.proceed
      rw [Cycle.proceed, if_pos hdue] at hpass
      exact ih _ hpass
    · rw [if_neg hdue]
      exact h

theorem Run.waiting (h : Run interval durations mayElapse { thread := t })
    (hinterval : 0 < t.interval) (hpanicked : t.run.panicked = false) :
    Run interval durations mayElapse (waiting t.run) := by
  have hsettled := (h.settle rfl t.settleBound).proceed
  have hdue := isDue_run hinterval
  rw [SamplerThread.run] at hdue hpanicked
  rw [Cycle.proceed, hdue, hpanicked] at hsettled
  exact hsettled

/-- A thread that waits goes on to wait when the clock is advanced and it is woken. -/
theorem Run.advance (h : Run interval durations mayElapse (Cycle.waiting t)) (span : Nat)
    (hspan : mayElapse t span) (hinterval : 0 < t.interval)
    (hpanicked : (t.advance span).panicked = false) :
    Run interval durations mayElapse (Cycle.waiting (t.advance span)) :=
  (h.elapse span hspan).wake.waiting hinterval hpanicked

/-! ## The deadline -/

/-- The deadline is near: at most an interval after the latest pass, and after the time at which
the thread began to wait. -/
structure Near (interval : Nat) (c : Cycle) : Prop where
  interval_eq : c.thread.interval = interval
  latest : ∃ a, c.thread.passTimes.getLast? = some a ∧ c.thread.deadline ≤ a + interval
  blocked : ∀ since, c.waitsSince = some since → since < c.thread.deadline

theorem Near.proceed (h : Near interval c) : Near interval c.proceed := by
  rw [Cycle.proceed]
  split
  · rename_i hdue
    have hdeadline := deadline_catchUp_le ((isDue_iff _).mp hdue).2
    refine ⟨?_, ⟨c.thread.now, ?_, ?_⟩, fun since hsince => nomatch hsince⟩
    · simpa using h.interval_eq
    · simp
    · simpa [h.interval_eq] using hdeadline
  · rename_i hdue
    split
    · exact h
    · rename_i hpanicked
      refine ⟨h.interval_eq, h.latest, fun since hsince => ?_⟩
      cases hwaits : c.waitsSince with
      | some before =>
        simp only [hwaits, Option.getD_some, Option.some.injEq] at hsince
        exact h.blocked since (by rw [hwaits, hsince])
      | none =>
        simp only [hwaits, Option.getD_none, Option.some.injEq] at hsince
        simp only [isDue_iff, not_and, Nat.not_le] at hdue
        rw [← hsince]
        exact hdue (by simpa using hpanicked)

theorem Run.near (h : Run interval durations mayElapse c) : Near interval c := by
  induction h with
  | start beganAt panicsAt =>
    refine ⟨rfl, ⟨beganAt, ?_, ?_⟩, fun since hsince => nomatch hsince⟩
    · simp
    · simp
  | proceed _ ih => exact ih.proceed
  | wake _ ih => exact ⟨ih.interval_eq, ih.latest, fun since hsince => nomatch hsince⟩
  | elapse _ span _ ih => exact ⟨ih.interval_eq, ih.latest, ih.blocked⟩

/-! ## The next pass -/

/-- Each pass has its successor, or the present time if it is the latest, within an interval or its
own duration. -/
structure Followed (interval : Nat) (durations : List Nat) (t : SamplerThread) : Prop where
  durations_eq : t.durations = durations.drop t.passTimes.length
  followed : ∀ k a, t.passTimes[k]? = some a →
    t.passTimes[k + 1]?.getD t.now ≤ max (a + interval) (a + durations.getD k 0)

theorem Followed.catchUp (h : Followed interval durations t) :
    Followed interval durations t.catchUp := by
  obtain ⟨hdurations, hfollowed⟩ := h
  exact ⟨by simpa using hdurations, by simpa using hfollowed⟩

theorem Followed.pass (h : Followed interval durations t) :
    Followed interval durations t.pass := by
  have hdurations := h.durations_eq
  constructor
  · rw [durations_pass, hdurations, passTimes_pass, List.tail_drop, List.length_append,
      List.length_singleton]
  · intro k a ha
    rw [passTimes_pass] at ha ⊢
    by_cases hk : k < t.passTimes.length
    · rw [List.getElem?_append_left hk] at ha
      have hnext : (t.passTimes ++ [t.now])[k + 1]? = some (t.passTimes[k + 1]?.getD t.now) := by
        by_cases hlast : k + 1 < t.passTimes.length
        · rw [List.getElem?_append_left hlast, List.getElem?_eq_getElem hlast, Option.getD_some]
        · obtain hlength : k + 1 = t.passTimes.length := by omega
          rw [hlength, List.getElem?_concat_length, List.getElem?_eq_none (Nat.le_refl _)]
          rfl
      rw [hnext, Option.getD_some]
      exact h.followed k a ha
    · have hlength := (List.getElem?_eq_some_iff.mp ha).1
      rw [List.length_append, List.length_singleton] at hlength
      obtain rfl : k = t.passTimes.length := by omega
      rw [List.getElem?_concat_length, Option.some.injEq] at ha
      have hnow : t.pass.now = a + durations.getD t.passTimes.length 0 := by
        simp [hdurations, ha, List.headD_eq_head?_getD]
      rw [List.getElem?_eq_none (by simp), Option.getD_none, hnow]
      exact Nat.le_max_right _ _

theorem Run.followed (h : Run interval durations mayElapse c)
    (hlimit : ∀ t span, mayElapse t span → t.now + span ≤ t.deadline) :
    Followed interval durations c.thread := by
  induction h with
  | start beganAt panicsAt =>
    refine Followed.pass ⟨rfl, fun k a ha => ?_⟩
    cases ha
  | @proceed c _ ih =>
    rw [Cycle.proceed]
    split
    · exact ih.catchUp.pass
    · split <;> exact ih
  | wake _ ih => exact ih
  | @elapse c h span hspan ih =>
    refine ⟨ih.durations_eq, fun k a ha => ?_⟩
    change c.thread.passTimes[k]? = some a at ha
    change c.thread.passTimes[k + 1]?.getD (c.thread.now + span) ≤ _
    have hfollowed := ih.followed k a ha
    cases hnext : c.thread.passTimes[k + 1]? with
    | some b => simpa [hnext] using hfollowed
    | none =>
      -- The pass is the latest one, so the deadline is at most an interval after it.
      obtain ⟨latest, hlatest, hdeadline⟩ := h.near.latest
      have hk := (List.getElem?_eq_some_iff.mp ha).1
      have hlength := List.getElem?_eq_none_iff.mp hnext
      rw [List.getLast?_eq_getElem?, show c.thread.passTimes.length - 1 = k by omega, ha] at hlatest
      cases hlatest
      have hbefore := hlimit c.thread span hspan
      rw [Option.getD_none]
      omega

/-! ## The grid -/

/-- The passes stand on a grid, and the next one is not late. -/
structure OnGrid (interval beganAt : Nat) (t : SamplerThread) : Prop where
  passTimes_eq : t.passTimes = (List.range t.passTimes.length).map fun k => beganAt + k * interval
  deadline_eq : t.deadline = beganAt + t.passTimes.length * interval
  now_le : t.now ≤ t.deadline

theorem OnGrid.pass {beganAt : Nat} (h : OnGrid interval beganAt t) (hinterval : t.interval = interval)
    (hdue : t.deadline ≤ t.now) (hshort : t.durations.headD 0 ≤ interval) :
    OnGrid interval beganAt t.catchUp.pass := by
  have hnow : t.now = beganAt + t.passTimes.length * interval := by
    rw [← h.deadline_eq]
    exact Nat.le_antisymm h.now_le hdue
  have hcatch : t.catchUp = t := by
    rw [catchUp, if_neg]
    have := h.now_le
    omega
  rw [hcatch]
  have hdeadline := h.deadline_eq
  refine ⟨?_, ?_, ?_⟩
  · rw [passTimes_pass, List.length_append, List.length_singleton, List.range_succ, List.map_append,
      ← h.passTimes_eq, hnow]
    rfl
  · rw [passTimes_pass, deadline_pass, hinterval, List.length_append, List.length_singleton,
      Nat.succ_mul]
    omega
  · rw [now_pass, deadline_pass, hinterval]
    omega

theorem Run.onGrid (h : Run interval durations mayElapse c)
    (hlimit : ∀ t span, mayElapse t span → t.now + span ≤ t.deadline)
    (hshort : ∀ d ∈ durations, d ≤ interval) :
    ∃ beganAt, OnGrid interval beganAt c.thread := by
  have hhead (l : List Nat) (hl : ∀ d ∈ l, d ≤ interval) : l.headD 0 ≤ interval := by
    cases l with
    | nil => exact Nat.zero_le _
    | cons d rest => exact hl d (List.mem_cons_self ..)
  induction h with
  | start beganAt panicsAt =>
    refine ⟨beganAt, ?_, ?_, ?_⟩
    · rw [passTimes_pass]
      simp [passTimes]
    · rw [passTimes_pass]
      simp [passTimes]
    · have hfirst := hhead durations hshort
      simpa using hfirst
  | @proceed c h ih =>
    obtain ⟨beganAt, hgrid⟩ := ih
    rw [Cycle.proceed]
    split
    · rename_i hdue
      refine ⟨beganAt, hgrid.pass h.near.interval_eq ((isDue_iff _).mp hdue).2 (hhead _ ?_)⟩
      intro d hd
      rw [(h.followed hlimit).durations_eq] at hd
      exact hshort d (List.mem_of_mem_drop hd)
    · split <;> exact ⟨beganAt, hgrid⟩
  | wake _ ih => exact ih
  | elapse _ span hspan ih =>
    obtain ⟨beganAt, hgrid⟩ := ih
    exact ⟨beganAt, hgrid.passTimes_eq, hgrid.deadline_eq, hlimit _ span hspan⟩

/-! ## Cadence -/

/-- A thread keeps its cadence. Whatever happens, its deadline while it is blocked is later than the
beginning of its wait and at most an interval after its latest pass. If the clock never goes beyond
the deadline, each pass is followed by the next one, or else by the present, after an interval or
its own duration at the latest; and if no pass takes longer than an interval, the passes begin at
whole multiples of it, all that have come by now. -/
theorem Run.cadence_kept (h : Run interval durations mayElapse c) :
    (∀ since, c.waitsSince = some since → ∃ a, c.thread.passTimes.getLast? = some a ∧
      since < c.thread.deadline ∧ c.thread.deadline ≤ a + interval) ∧
    ((∀ t span, mayElapse t span → t.now + span ≤ t.deadline) →
      (∀ k a, c.thread.passTimes[k]? = some a →
        c.thread.passTimes[k + 1]?.getD c.thread.now ≤
          max (a + interval) (a + durations.getD k 0)) ∧
      ((∀ d ∈ durations, d ≤ interval) → ∃ beganAt,
        c.thread.passTimes = (List.range c.thread.passTimes.length).map
          (fun k => beganAt + k * interval) ∧
        c.thread.now ≤ beganAt + c.thread.passTimes.length * interval)) := by
  have hnear := h.near
  refine ⟨fun since hsince => ?_, fun hlimit => ⟨(h.followed hlimit).followed, fun hshort => ?_⟩⟩
  · obtain ⟨a, hlatest, hdeadline⟩ := hnear.latest
    exact ⟨a, hlatest, hnear.blocked since hsince, hdeadline⟩
  · obtain ⟨beganAt, hgrid⟩ := h.onGrid hlimit hshort
    refine ⟨beganAt, hgrid.passTimes_eq, ?_⟩
    rw [← hgrid.deadline_eq]
    exact hgrid.now_le

/-- A pass that takes a whole interval is followed by the next one at once, and waking the thread
early makes no pass. -/
theorem cadence_kept_punctual :
    let t := [5, 15, 12].foldl (fun t span => t.advance span) (SamplerThread.start 30 [10, 30] none)
    t.passTimes = [0, 30, 60] ∧
    (∃ a, t.passTimes.getLast? = some a ∧ t.now < t.deadline ∧ t.deadline ≤ a + 30) ∧
    ∃ beganAt, t.passTimes = (List.range t.passTimes.length).map (fun k => beganAt + k * 30) ∧
      t.now ≤ beganAt + t.passTimes.length * 30 := by
  have hstart : Run 30 [10, 30] (fun t span => t.now + span ≤ t.deadline)
      (waiting (SamplerThread.start 30 [10, 30] none)) :=
    (Run.start 0 none).waiting (by decide) (by decide)
  have hearly := hstart.advance 5 (by decide) (by decide) (by decide)
  have hlong := hearly.advance 15 (by decide) (by decide) (by decide)
  have hrun := hlong.advance 12 (by decide) (by decide) (by decide)
  obtain ⟨hblocked, hpunctual⟩ := hrun.cadence_kept
  refine ⟨by decide, hblocked _ rfl, ?_⟩
  exact (hpunctual fun _ _ h => h).2 (by decide)

end Cycle

end SystemMetrics.SamplerThread
