import SystemMetrics.Proofs.Process.Lookup

/-!
# What a refresh leaves of a process

A refresh that succeeds commits what it read and keeps what sampling has left; any other refresh
keeps the whole process. So a process that a pass leaves under a number is either the one that was
known there, with the same start time and the same trail of samples, or one without a trail.
-/

namespace SystemMetrics

/-- What sampling leaves in a process. -/
structure Trail where
  histories : ProcessHistories
  timeOfDeath : Option Timestamp
  timed : TimedValues
  deriving DecidableEq, Repr

/-- The trail of a process that has never been sampled. -/
def Trail.blank (history : Nat) : Trail := ⟨.new history, none, {}⟩

namespace ProcessEntry

variable {σ : Type} {m : Type → Type} [Monad m]

def trail (p : ProcessEntry) : Trail := ⟨p.histories, p.timeOfDeath, p.timed⟩

def withTrail (p : ProcessEntry) (x : Trail) : ProcessEntry :=
  { p with histories := x.histories, timeOfDeath := x.timeOfDeath, timed := x.timed }

/-! ## One process -/

/-- The reads of a refresh in their order, one after the other. -/
theorem observe_eq (probe : Probe m) (initial : Bool) (p : ProcessEntry) :
    p.observe probe initial =
      readStat probe p.pid >>= fun stat =>
      (if initial then readOwner probe p.pid else pure p.owner) >>= fun owner =>
      (if stat.state = 'Z' then pure p.statm else readStatm probe p.pid) >>= fun statm =>
      readIo probe p.pid >>= fun read =>
      pure { p with stat, owner, statm, io := read.1, accessViolation := read.2 } := by
  unfold observe
  congr 1
  funext stat
  cases initial <;> by_cases hz : stat.state = 'Z' <;> simp only [hz, if_true, if_false] <;> rfl

/-- What was read replaces the columns, and nothing else changes. -/
theorem observe_ok {probe : Probe (Observing σ)} {initial : Bool} {p q : ProcessEntry} {s : σ}
    (h : ((p.observe probe initial).run s).1 = .ok q) :
    ∃ stat owner statm io denied,
      q = { p with stat, owner, statm, io, accessViolation := denied } := by
  rw [observe_eq] at h
  obtain ⟨stat, -, h⟩ := Observing.run_bind_ok h
  obtain ⟨owner, -, h⟩ := Observing.run_bind_ok h
  obtain ⟨statm, -, h⟩ := Observing.run_bind_ok h
  obtain ⟨⟨io, denied⟩, -, h⟩ := Observing.run_bind_ok h
  cases h
  exact ⟨stat, owner, statm, io, denied, rfl⟩

/-- What a refresh makes of what it observed. -/
def commit (p : ProcessEntry) : Except Interruption ProcessEntry → Except Fault Bool × ProcessEntry
  | .ok q => (.ok true, q)
  | .error .gone => (.ok false, p)
  | .error (.fault f) => (.error f, p)

theorem refresh_eq [LawfulMonad m] (probe : Probe m) (initial : Bool) (p : ProcessEntry) :
    p.refresh probe initial = p.commit <$> (p.observe probe initial).run := by
  rw [refresh, map_eq_pure_bind]
  congr 1
  funext r
  match r with
  | .ok _ | .error .gone | .error (.fault _) => rfl

theorem refresh_answer (probe : Probe (Observing σ)) (initial : Bool) (p : ProcessEntry) (s : σ) :
    (p.refresh probe initial s).1 = p.commit ((p.observe probe initial).run s).1 := by
  rw [refresh_eq]
  rfl

theorem refresh_kept (probe : Probe (Observing σ)) (initial : Bool) (p : ProcessEntry) (s : σ) :
    ∃ stat owner statm io denied, (p.refresh probe initial s).1.2 =
      { p with stat, owner, statm, io, accessViolation := denied } := by
  rw [refresh_eq]
  show ∃ stat owner statm io denied, (p.commit ((p.observe probe initial).run s).1).2 = _
  cases h : ((p.observe probe initial).run s).1 with
  | ok q => exact observe_ok h
  | error e => cases e <;> exact ⟨p.stat, p.owner, p.statm, p.io, p.accessViolation, rfl⟩

theorem refresh_pid (probe : Probe (Observing σ)) (initial : Bool) (p : ProcessEntry) (s : σ) :
    (p.refresh probe initial s).1.2.pid = p.pid := by
  obtain ⟨_, _, _, _, _, h⟩ := refresh_kept probe initial p s
  rw [h]

theorem refresh_trail (probe : Probe (Observing σ)) (initial : Bool) (p : ProcessEntry) (s : σ) :
    (p.refresh probe initial s).1.2.trail = p.trail := by
  obtain ⟨_, _, _, _, _, h⟩ := refresh_kept probe initial p s
  rw [h]
  rfl

theorem new_pid (probe : Probe (Observing σ)) (pid bootTime history : Nat) (s : σ) :
    (new probe pid bootTime history s).1.pid = pid := rfl

end ProcessEntry

/-! ## One number -/

namespace ProcessTable

variable {σ : Type} {probe : Probe (Observing σ)} {t : ProcessTable} {pid : Nat} {s : σ}
  {p q : ProcessEntry}

/-- The process under a number goes on from the one known there, or has no trail. -/
def GoesOn (history : Nat) (known : Option ProcessEntry) (q : ProcessEntry) : Prop :=
  (∃ p, known = some p ∧ q.startTicks = p.startTicks ∧ q.trail = p.trail) ∨
    q.trail = .blank history

theorem GoesOn.trans {history : Nat} {known : Option ProcessEntry} (h : GoesOn history known p)
    (h' : GoesOn history (some p) q) : GoesOn history known q := by
  rcases h' with ⟨_, hp, hstart, htrail⟩ | hblank
  · cases hp
    rcases h with ⟨o, ho, hstart', htrail'⟩ | hblank
    · exact Or.inl ⟨o, ho, hstart.trans hstart', htrail.trans htrail'⟩
    · exact Or.inr (htrail.trans hblank)
  · exact Or.inr hblank

theorem readAfresh_process (h : (readAfresh probe t pid s).1.process? = some q) :
    q.pid = pid ∧ q.trail = .blank t.cadence.history := by
  simp only [readAfresh, Observing.bind_run] at h
  have hpid := ProcessEntry.refresh_pid probe true
    (ProcessEntry.new probe pid t.bootTime t.cadence.history s).1
    (ProcessEntry.new probe pid t.bootTime t.cadence.history s).2.1
  have htrail := ProcessEntry.refresh_trail probe true
    (ProcessEntry.new probe pid t.bootTime t.cadence.history s).1
    (ProcessEntry.new probe pid t.bootTime t.cadence.history s).2.1
  generalize (ProcessEntry.refresh probe true _ _).1 = answer at h hpid htrail
  obtain ⟨result, r⟩ := answer
  match result with
  | .ok true => cases h; exact ⟨hpid, htrail⟩
  | .ok false => cases h
  | .error _ => cases h

theorem settle_process {known : Option ProcessEntry} (hknown : ∀ p, known = some p → p.pid = pid)
    (h : (settle probe t pid known s).1.process? = some q) :
    q.pid = pid ∧ GoesOn t.cadence.history known q := by
  cases known with
  | none =>
    obtain ⟨hpid, htrail⟩ := readAfresh_process h
    exact ⟨hpid, Or.inr htrail⟩
  | some p =>
    have hp := hknown p rfl
    have hpid := ProcessEntry.refresh_pid probe false p s
    have htrail := ProcessEntry.refresh_trail probe false p s
    simp only [settle, refreshKnown, Observing.bind_run] at h
    generalize p.refresh probe false s = refreshed at h hpid htrail
    obtain ⟨⟨result, r⟩, s', log⟩ := refreshed
    match result with
    | .ok true =>
      by_cases hstart : r.startTicks = p.startTicks
      · simp only [if_pos hstart] at h
        cases h
        exact ⟨hpid.trans hp, Or.inl ⟨p, rfl, hstart, htrail⟩⟩
      · simp only [if_neg hstart] at h
        obtain ⟨hpid', htrail'⟩ := readAfresh_process h
        exact ⟨hpid'.trans hp, Or.inr htrail'⟩
    | .ok false => cases h
    | .error _ => cases h; exact ⟨hp, Or.inl ⟨q, rfl, rfl, rfl⟩⟩

/-- A process that is found with another start time gives way to one without a trail. -/
theorem settle_reused (h : (p.refresh probe false s).1 = (.ok true, q))
    (hstart : q.startTicks ≠ p.startTicks) {r : ProcessEntry}
    (hr : (settle probe t pid (some p) s).1.process? = some r) :
    r.trail = .blank t.cadence.history := by
  simp only [settle, refreshKnown, Observing.bind_run, h, if_neg hstart] at hr
  exact (readAfresh_process hr).2

end ProcessTable

end SystemMetrics
