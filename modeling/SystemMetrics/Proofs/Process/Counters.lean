import SystemMetrics.Proofs.Process.Run
import SystemMetrics.Proofs.Retained

/-!
# The counters behind the rates of a process

A rate divides the growth of one history by the growth of another. The histories of a process that
every sampling call feeds hold what the latest calls saw, and the histories that only readable
counters of `io` feed hold what the latest calls with such counters saw. Within either group a
position belongs to one call, and the timed values of the group compare the same two calls.
-/

namespace SystemMetrics.ProcessEntry

variable {σ : Type} {probe : Probe (Observing σ)} {initial : Bool} {p q : ProcessEntry} {s : σ}

/-! ## What a refresh reads -/

/-- The reads of a refresh that come before that of `io`. -/
def observeColumns {m : Type → Type} [Monad m] (probe : Probe m) (initial : Bool)
    (p : ProcessEntry) : ExceptT Interruption m ProcessEntry :=
  readStat probe p.pid >>= fun stat =>
  (if initial then readOwner probe p.pid else pure p.owner) >>= fun owner =>
  (if stat.state = 'Z' then pure p.statm else readStatm probe p.pid) >>= fun statm =>
  pure { p with stat, owner, statm }

theorem observe_eq_columns (probe : Probe (Observing σ)) (initial : Bool) (p : ProcessEntry) :
    p.observe probe initial = p.observeColumns probe initial >>= fun q =>
      readIo probe p.pid >>= fun read =>
      pure { q with io := read.1, accessViolation := read.2 } := by
  simp only [observe_eq, observeColumns, bind_assoc, pure_bind]

theorem observeColumns_ok (h : ((p.observeColumns probe initial).run s).1 = .ok q) :
    ((readStat probe p.pid).run s).1 = .ok q.stat := by
  obtain ⟨stat, hstat, h⟩ := Observing.run_bind_ok h
  obtain ⟨owner, -, h⟩ := Observing.run_bind_ok h
  obtain ⟨statm, -, h⟩ := Observing.run_bind_ok h
  cases h
  exact hstat

/-- The counters of `io` that a refresh reads, if it gets an answer. -/
def ioRead (probe : Probe (Observing σ)) (initial : Bool) (p : ProcessEntry) (s : σ) :
    Option Proc.Io :=
  match (probe.processFile p.pid "io" ((p.observeColumns probe initial).run s).2.1).1 with
  | .ok content => some (Proc.Io.parse content)
  | .error _ => none

theorem readIo_ok {pid : Nat} {io : Option Proc.Io} {denied : Bool}
    (h : ((readIo probe pid).run s).1 = .ok (io, denied)) :
    io = match (probe.processFile pid "io" s).1 with
      | .ok content => some (Proc.Io.parse content)
      | .error _ => none := by
  unfold readIo at h
  obtain ⟨answer, hanswer, h⟩ := Observing.run_bind_ok h
  cases hanswer
  cases hread : (probe.processFile pid "io" s).1 with
  | ok content =>
    rw [hread] at h
    cases h
    rfl
  | error e =>
    rw [hread] at h
    by_cases hdenied : e.isDenied
    · simp only [hdenied] at h
      cases h
      rfl
    · by_cases hgone : e.isGone
      · simp only [hdenied, hgone] at h
        obtain ⟨_, -, h⟩ := Observing.run_bind_ok h
        cases h
        rfl
      · simp only [hdenied, hgone] at h
        cases h

/-! ## Runs of calls -/

/-- What was read by the last refresh that got through. -/
structure Committed where
  stat : Proc.Stat
  io : Option Proc.Io := none
  deriving DecidableEq, Repr

/-- What was read by the last refresh that got through, after one more refresh. -/
def Committed.next (probe : Probe (Observing σ)) (initial : Bool) (p : ProcessEntry) (s : σ)
    (before : Committed) : Committed :=
  match (p.refresh probe initial s).1.1, ((readStat probe p.pid).run s).1 with
  | .ok true, .ok stat => { stat, io := ioRead probe initial p s }
  | _, _ => before

/-- A refresh leaves the columns that the last refresh that got through read. -/
theorem refresh_next (probe : Probe (Observing σ)) (initial : Bool) (s : σ) {read : Committed}
    (hstat : p.stat = read.stat) (hio : p.io = read.io) :
    (p.refresh probe initial s).1.2.stat = (read.next probe initial p s).stat ∧
      (p.refresh probe initial s).1.2.io = (read.next probe initial p s).io := by
  rw [Committed.next, refresh_answer]
  cases hobserved : ((p.observe probe initial).run s).1 with
  | error e => cases e <;> exact ⟨hstat, hio⟩
  | ok q =>
    rw [observe_eq_columns] at hobserved
    obtain ⟨columns, hcolumns, hobserved⟩ := Observing.run_bind_ok hobserved
    obtain ⟨⟨io, denied⟩, hread, hobserved⟩ := Observing.run_bind_ok hobserved
    cases hobserved
    rw [observeColumns_ok hcolumns]
    exact ⟨rfl, readIo_ok hread⟩

/-- A sampling call, with what was committed when it was made. -/
structure Sampling where
  now : Timestamp
  takenAt : Nat
  read : Committed
  deriving DecidableEq, Repr

/-- The call with the counters of `io`, if these had been read. -/
def Sampling.withIo? (call : Sampling) : Option (Sampling × Proc.Io) := call.read.io.map (call, ·)

/-- The processes that refreshes and sampling calls lead to in any order, with what was committed
last and the sampling calls, the latest first. Every refresh meets a system of its own. -/
inductive Run (history : Nat) : Committed → List Sampling → ProcessEntry → Prop
  | new {σ : Type} (probe : Probe (Observing σ)) (s : σ) (pid bootTime : Nat) :
      Run history { stat := { pid } } [] (ProcessEntry.new probe pid bootTime history s).1
  | refresh {σ : Type} {read : Committed} {calls : List Sampling} {p : ProcessEntry}
      (h : Run history read calls p) (probe : Probe (Observing σ)) (initial : Bool) (s : σ) :
      Run history (read.next probe initial p s) calls (p.refresh probe initial s).1.2
  | sample {read : Committed} {calls : List Sampling} {p : ProcessEntry}
      (h : Run history read calls p) (now : Timestamp) (takenAt : Nat) :
      Run history read (⟨now, takenAt, read⟩ :: calls) (p.sample now takenAt)
  | updateTimed {read : Committed} {calls : List Sampling} {p : ProcessEntry}
      (h : Run history read calls p) : Run history read calls p.updateTimed

/-! ## Invariant -/

/-- A history that each of some sampling calls has fed with its value of `f`. -/
abbrev FedBy {α : Type} (history : Nat) (calls : List α) (takenAt f : α → Nat) (h : History) :
    Prop :=
  h.Retains history (calls.map fun call => ⟨f call, takenAt call⟩)

/-- The histories of one group have been fed by the same calls. -/
structure Fed (history : Nat) (calls : List Sampling) (h : ProcessHistories) : Prop where
  realMs : FedBy history calls (·.takenAt) (·.now.sinceEpoch) h.realMs
  user : FedBy history calls (·.takenAt) (·.read.stat.userTicks) h.user
  system : FedBy history calls (·.takenAt) (·.read.stat.systemTicks) h.system
  majorFaults : FedBy history calls (·.takenAt) (·.read.stat.majorFaults) h.majorFaults
  ioRealMs : FedBy history (calls.filterMap Sampling.withIo?) (·.1.takenAt) (·.1.now.sinceEpoch)
    h.ioRealMs
  readCalls : FedBy history (calls.filterMap Sampling.withIo?) (·.1.takenAt) (·.2.readCalls)
    h.readCalls
  writeCalls : FedBy history (calls.filterMap Sampling.withIo?) (·.1.takenAt) (·.2.writeCalls)
    h.writeCalls

theorem fed_new (history : Nat) : Fed history [] (.new history) := by
  constructor <;> exact History.retains_new history

theorem Fed.sample {history : Nat} {calls : List Sampling} {read : Committed}
    (h : Fed history calls p.histories) (hstat : p.stat = read.stat) (hio : p.io = read.io)
    (now : Timestamp) (takenAt : Nat) :
    Fed history (⟨now, takenAt, read⟩ :: calls) (p.sample now takenAt).histories := by
  obtain ⟨hrealMs, huser, hsystem, hmajorFaults, hioRealMs, hreadCalls, hwriteCalls⟩ := h
  simp only [ProcessEntry.sample, hstat, hio]
  cases hcounters : read.io with
  | none =>
    have hwithIo : (⟨now, takenAt, read⟩ :: calls).filterMap Sampling.withIo? =
        calls.filterMap Sampling.withIo? := by
      rw [List.filterMap_cons, Sampling.withIo?, hcounters]
      rfl
    refine ⟨hrealMs.add _ _, huser.add _ _, hsystem.add _ _, hmajorFaults.add _ _, ?_, ?_, ?_⟩
    all_goals rw [hwithIo]
    · exact hioRealMs
    · exact hreadCalls
    · exact hwriteCalls
  | some io =>
    have hwithIo : (⟨now, takenAt, read⟩ :: calls).filterMap Sampling.withIo? =
        (⟨now, takenAt, read⟩, io) :: calls.filterMap Sampling.withIo? := by
      rw [List.filterMap_cons, Sampling.withIo?, hcounters]
      rfl
    refine ⟨hrealMs.add _ _, huser.add _ _, hsystem.add _ _, hmajorFaults.add _ _, ?_, ?_, ?_⟩
    all_goals rw [hwithIo]
    · exact hioRealMs.add _ _
    · exact hreadCalls.add _ _
    · exact hwriteCalls.add _ _

theorem Run.fed {history : Nat} {read : Committed} {calls : List Sampling}
    (h : Run history read calls p) :
    p.stat = read.stat ∧ p.io = read.io ∧ Fed history calls p.histories := by
  induction h with
  | new probe s pid bootTime => exact ⟨rfl, rfl, fed_new history⟩
  | @refresh σ read calls p _ probe initial s ih =>
    obtain ⟨hstat, hio, hfed⟩ := ih
    obtain ⟨hstat', hio'⟩ := refresh_next probe initial s hstat hio
    have htrail := refresh_trail probe initial p s
    refine ⟨hstat', hio', ?_⟩
    rw [show (p.refresh probe initial s).1.2.histories = p.histories from
      congrArg Trail.histories htrail]
    exact hfed
  | sample _ now takenAt ih =>
    obtain ⟨hstat, hio, hfed⟩ := ih
    exact ⟨hstat, hio, hfed.sample hstat hio now takenAt⟩
  | updateTimed _ ih => exact ih

/-! ## Paired counters -/

/-- The counters behind a rate come from the same sampling calls. The wall clock and the counters of
`stat` are those of the latest calls, as many as the history allows, and the second wall clock and
the counters of `io` are those of the latest calls for which `io` had been read. The timed values
are the growth of every counter between the oldest and the newest call of its group. -/
theorem Run.counters_paired {history : Nat} {read : Committed} {calls : List Sampling}
    (h : Run history read calls p) :
    let kept := calls.take (max history 1)
    let keptIo := (calls.filterMap Sampling.withIo?).take (max history 1)
    (p.histories.realMs.values = (kept.map (·.now.sinceEpoch)).reverse ∧
      p.histories.user.values = (kept.map (·.read.stat.userTicks)).reverse ∧
      p.histories.system.values = (kept.map (·.read.stat.systemTicks)).reverse ∧
      p.histories.majorFaults.values = (kept.map (·.read.stat.majorFaults)).reverse) ∧
    (p.histories.ioRealMs.values = (keptIo.map (·.1.now.sinceEpoch)).reverse ∧
      p.histories.readCalls.values = (keptIo.map (·.2.readCalls)).reverse ∧
      p.histories.writeCalls.values = (keptIo.map (·.2.writeCalls)).reverse) ∧
    p.updateTimed.timed = {
      realMs := History.growth (·.now.sinceEpoch) kept
      userTicks := History.growth (·.read.stat.userTicks) kept
      systemTicks := History.growth (·.read.stat.systemTicks) kept
      majorFaults := History.growth (·.read.stat.majorFaults) kept
      ioRealMs := History.growth (·.1.now.sinceEpoch) keptIo
      readCalls := History.growth (·.2.readCalls) keptIo
      writeCalls := History.growth (·.2.writeCalls) keptIo } := by
  obtain ⟨-, -, hrealMs, huser, hsystem, hmajorFaults, hioRealMs, hreadCalls, hwriteCalls⟩ := h.fed
  refine ⟨⟨hrealMs.values_eq, huser.values_eq, hsystem.values_eq, hmajorFaults.values_eq⟩,
    ⟨hioRealMs.values_eq, hreadCalls.values_eq, hwriteCalls.values_eq⟩, ?_⟩
  simp only [ProcessEntry.updateTimed, fullDelta]
  rw [hrealMs.delta_capacity, huser.delta_capacity, hsystem.delta_capacity,
    hmajorFaults.delta_capacity, hioRealMs.delta_capacity, hreadCalls.delta_capacity,
    hwriteCalls.delta_capacity]

/-- A system with a shell whose `io` answers as given. -/
def shellWithIo (io : Except ReadError String) : Probe (Observing Unit) :=
  ProcessTable.filesOnly [7] fun _ name =>
    if name = "io" then io else ProcessTable.shellFile 100 name

def sampleShell (io : Except ReadError String) (now : Int) (p : ProcessEntry) : ProcessEntry :=
  (p.refresh (shellWithIo io) true ()).1.2.sample ⟨now⟩ 0

/-- A shell that was sampled three times; the second time its `io` was denied. -/
def shellDeniedOnce : ProcessEntry :=
  sampleShell (.ok "syscr: 9\nsyscw: 3\n") 4000
    (sampleShell (.error (.described .permissionDenied "io")) 2000
      (sampleShell (.ok "syscr: 4\nsyscw: 2\n") 1000
        (new (shellWithIo (.ok "")) 7 0 2 ()).1))

/-- Two samples of the wall clock span two seconds, those of `io` span all three calls. -/
theorem counters_paired_denied : ∃ read calls, Run 2 read calls shellDeniedOnce ∧
    calls.map (fun call => (call.now.milliseconds, call.read.io.isSome)) =
      [(4000, true), (2000, false), (1000, true)] ∧
    shellDeniedOnce.histories.realMs.values = [2000, 4000] ∧
    shellDeniedOnce.histories.ioRealMs.values = [1000, 4000] ∧
    shellDeniedOnce.histories.readCalls.values = [4, 9] ∧
    shellDeniedOnce.updateTimed.timed =
      { realMs := 2000, ioRealMs := 3000, readCalls := 5, writeCalls := 1 } := by
  have hcall {read calls p} (h : Run 2 read calls p) (io : Except ReadError String) (now : Int) :
      Run 2 (read.next (shellWithIo io) true p ())
        (⟨⟨now⟩, 0, read.next (shellWithIo io) true p ()⟩ :: calls) (sampleShell io now p) :=
    (h.refresh _ true ()).sample ⟨now⟩ 0
  have hrun : Run 2 _ _ shellDeniedOnce := hcall (hcall (hcall (Run.new _ () 7 0) _ _) _ _) _ _
  obtain ⟨⟨hrealMs, -⟩, ⟨hioRealMs, hreadCalls, -⟩, htimed⟩ := Run.counters_paired hrun
  refine ⟨_, _, hrun, by decide +kernel, hrealMs.trans ?_, hioRealMs.trans ?_, hreadCalls.trans ?_,
    htimed.trans ?_⟩
  all_goals decide +kernel

end SystemMetrics.ProcessEntry
