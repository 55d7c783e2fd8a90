import SystemMetrics.Proofs.Steady

/-!
# Readings of a process

A reading is what a view says of a process: all of its columns, or why it ends early. One that gets
through says the same again, and whether one gets through is up to the view.
-/

namespace SystemMetrics.ProcessEntry

variable {view : Probe Id} {p q : ProcessEntry}

/-! ## Computations without a system -/

theorem runBind_ok {ε α β : Type} {x : ExceptT ε Id α} {a : α} (f : α → ExceptT ε Id β)
    (h : x.run = .ok a) : (x >>= f).run = (f a).run := by
  rw [ExceptT.run_bind, h]
  rfl

theorem runBind_error {ε α β : Type} {x : ExceptT ε Id α} {e : ε} (f : α → ExceptT ε Id β)
    (h : x.run = .error e) : (x >>= f).run = .error e := by
  rw [ExceptT.run_bind, h]
  rfl

theorem runBind_inv {ε α β : Type} {x : ExceptT ε Id α} {f : α → ExceptT ε Id β} {b : β}
    (h : (x >>= f).run = .ok b) : ∃ a, x.run = .ok a ∧ (f a).run = .ok b := by
  cases hx : x.run with
  | error e => cases (runBind_error f hx).symm.trans h
  | ok a => exact ⟨a, rfl, (runBind_ok f hx).symm.trans h⟩

/-! ## Readings -/

/-- What a view says of a process; `initial` as in `observe`. -/
def reading (view : Probe Id) (initial : Bool) (p : ProcessEntry) :
    Except Interruption ProcessEntry :=
  (p.observe view initial).run

/-- A process whose `stat` can be read has an owner that can be read. -/
def HasOwner (view : Probe Id) (pid : Nat) : Prop :=
  ∀ content, view.processFile pid "stat" = .ok content →
    ∃ owner, view.processOwner pid = .ok owner

theorem stat_readable {pid : Nat} {stat : Proc.Stat} (h : (readStat view pid).run = .ok stat) :
    ∃ content, view.processFile pid "stat" = .ok content := by
  cases hfile : view.processFile pid "stat" with
  | ok content => exact ⟨content, rfl⟩
  | error e =>
    have hlive : (readLive view pid "stat").run = .error (interruption pid "stat" e) :=
      runBind_ok _ (congrArg Except.ok hfile)
    have hstat : (readStat view pid).run = .error (interruption pid "stat" e) :=
      runBind_error _ hlive
    cases h.symm.trans hstat

theorem owner_read (howner : HasOwner view p.pid) {stat : Proc.Stat}
    (h : (readStat view p.pid).run = .ok stat) (initial : Bool) :
    ∃ owner, (if initial then readOwner view p.pid else pure p.owner).run = .ok owner := by
  cases initial with
  | false => exact ⟨p.owner, rfl⟩
  | true =>
    obtain ⟨content, hcontent⟩ := stat_readable h
    obtain ⟨owner, ho⟩ := howner content hcontent
    exact ⟨owner, runBind_ok _ (congrArg Except.ok ho)⟩

theorem reading_ok {initial : Bool} (h : reading view initial p = .ok q) :
    ∃ stat owner statm read, (readStat view p.pid).run = .ok stat ∧
      (if initial then readOwner view p.pid else pure p.owner).run = .ok owner ∧
      (if stat.state = 'Z' then pure p.statm else readStatm view p.pid).run = .ok statm ∧
      (readIo view p.pid).run = .ok read ∧
      q = { p with stat, owner, statm, io := read.1, accessViolation := read.2 } := by
  rw [reading, observe_eq] at h
  obtain ⟨stat, hstat, h⟩ := runBind_inv h
  obtain ⟨owner, howner, h⟩ := runBind_inv h
  obtain ⟨statm, hstatm, h⟩ := runBind_inv h
  obtain ⟨read, hread, h⟩ := runBind_inv h
  cases h
  exact ⟨stat, owner, statm, read, hstat, howner, hstatm, hread, rfl⟩

theorem reading_of_reads {stat : Proc.Stat} {statm : Proc.Statm} {read : Option Proc.Io × Bool}
    (hstat : (readStat view p.pid).run = .ok stat)
    (hstatm : (if stat.state = 'Z' then pure p.statm else readStatm view p.pid).run = .ok statm)
    (hread : (readIo view p.pid).run = .ok read) :
    reading view false p =
      .ok { p with stat, statm, io := read.1, accessViolation := read.2 } := by
  rw [reading, observe_eq, runBind_ok _ hstat]
  have howner : (pure p.owner : ExceptT Interruption Id _).run = .ok p.owner := rfl
  refine (runBind_ok _ howner).trans ?_
  rw [runBind_ok _ hstatm, runBind_ok _ hread]
  rfl

/-- A process that was just read is read again as it is. -/
theorem reading_again {initial : Bool} (h : reading view initial p = .ok q) :
    reading view false q = .ok q := by
  obtain ⟨stat, owner, statm, read, hstat, -, hstatm, hread, rfl⟩ := reading_ok h
  refine reading_of_reads hstat ?_ hread
  by_cases hz : stat.state = 'Z'
  · rw [if_pos hz]
    rfl
  · rw [if_neg hz] at hstatm ⊢
    exact hstatm

/-- Where a process can be read for the first time, it can be read. -/
theorem reading_of_initial (hpid : p.pid = q.pid) {r : ProcessEntry}
    (h : reading view true p = .ok r) : ∃ r', reading view false q = .ok r' := by
  obtain ⟨stat, owner, statm, read, hstat, -, hstatm, hread, -⟩ := reading_ok h
  rw [hpid] at hstat hstatm hread
  obtain ⟨kept, hkept⟩ : ∃ kept,
      (if stat.state = 'Z' then pure q.statm else readStatm view q.pid).run = .ok kept := by
    by_cases hz : stat.state = 'Z'
    · rw [if_pos hz]
      exact ⟨q.statm, rfl⟩
    · rw [if_neg hz] at hstatm ⊢
      exact ⟨statm, hstatm⟩
  exact ⟨_, reading_of_reads hstat hkept hread⟩

theorem refresh_view (view : Probe Id) (initial : Bool) (p : ProcessEntry) :
    p.refresh view initial = p.commit (reading view initial p) := by
  rw [refresh_eq]
  rfl

end SystemMetrics.ProcessEntry
