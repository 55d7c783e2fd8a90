import SystemMetrics.Proofs.Lockstep
import SystemMetrics.Proofs.Process.Run
import SystemMetrics.Simulation.World

/-!
# What passes say about failures

A pass counts the refreshes that fail and compares the count with whether the pass before it had
failures. So what it logs is known from the results of its own refreshes and from the passes before
it: the warning opens a series of failing passes and the recovery closes it.
-/

namespace SystemMetrics

variable {σ α β : Type}

/-! ## Messages of passes -/

/-- What passes have to say among some events. -/
def messages (events : List Event) : List Event := events.filter Event.ofPass

@[simp] theorem messages_append (events more : List Event) :
    messages (events ++ more) = messages events ++ messages more :=
  List.filter_append events more

theorem messages_ofPass {events : List Event} (h : ∀ e ∈ events, e.ofPass = true) :
    messages events = events :=
  List.filter_eq_self.mpr h

/-- A computation that has nothing to say about passes. -/
def Silent (x : Observing σ α) : Prop := ∀ s, messages (x s).2.2 = []

namespace Silent

variable {x : Observing σ α} {f : α → Observing σ β}

theorem messages_after (hx : Silent x) (f : α → Observing σ β) (s : σ) :
    messages ((x >>= f) s).2.2 = messages (f (x s).1 (x s).2.1).2.2 := by
  rw [Observing.bind_run, messages_append, hx, List.nil_append]

theorem messages_before (hf : ∀ a, Silent (f a)) (x : Observing σ α) (s : σ) :
    messages ((x >>= f) s).2.2 = messages (x s).2.2 := by
  rw [Observing.bind_run, messages_append, hf, List.append_nil]

theorem pure (a : α) : Silent (Pure.pure a : Observing σ α) := fun _ => rfl

theorem bind (hx : Silent x) (hf : ∀ a, Silent (f a)) : Silent (x >>= f) :=
  fun s => (messages_before hf x s).trans (hx s)

def lockstep (σ : Type) : Lockstep (Observing σ) (Observing σ) where
  Matches x _ := Silent x
  pure := pure
  bind := bind

end Silent

/-- The messages of passes reach the log, each once, and no question writes one by itself. -/
structure Probe.Reticent (probe : Probe (Observing σ)) : Prop where
  listPids : Silent probe.listPids
  settles : ∀ pid, (Silent.lockstep σ).Settles probe probe pid
  bootTime : Silent probe.bootTime
  wallClock : Silent probe.wallClock
  monotonicClock : Silent probe.monotonicClock
  log : ∀ e s, messages (probe.log e s).2.2 = messages [e]

theorem Probe.Reticent.logs {probe : Probe (Observing σ)} (h : probe.Reticent)
    (events : List Event) (s : σ) :
    messages (events.forM probe.log s).2.2 = messages events := by
  induction events generalizing s with
  | nil => rfl
  | cons e rest ih =>
    show messages ((probe.log e >>= fun _ => rest.forM probe.log) s).2.2 = _
    rw [Observing.bind_run, messages_append, h.log, ih, ← messages_append]
    rfl

theorem World.machine_reticent (procPath : String) : (machine.probe procPath).Reticent := by
  have hgets {α : Type} (f : World → α) : Silent (Observing.gets f) := fun _ => rfl
  have h : (Silent.lockstep World).Serves machine machine :=
    { readText := fun _ _ => rfl
      listDirectory := fun _ _ => rfl
      owner := fun _ => hgets _
      setting := fun _ => hgets _
      lastErrno := hgets _
      log := fun _ _ _ => rfl }
  exact
    { listPids := h.listPids _
      settles := h.settles procPath
      bootTime := h.bootTime _
      wallClock := hgets _
      monotonicClock := hgets _
      log := fun _ _ => rfl }

namespace ProcessTable

variable {probe : Probe (Observing σ)} {t : ProcessTable} {pid : Nat}

/-! ## Refreshes and their results -/

/-- The result of the first refresh of a process. -/
def firstAttempt (probe : Probe (Observing σ)) (t : ProcessTable) (pid : Nat) (s : σ) :
    Except Fault Bool :=
  let (fresh, s, _) := ProcessEntry.new probe pid t.bootTime t.cadence.history s
  (fresh.refresh probe true s).1.1

/-- The results of the refreshes that settling a number takes. A known process is refreshed in
place; one that is not known, or that has taken the number of another, is read for the first
time. -/
def attempts (probe : Probe (Observing σ)) (t : ProcessTable) (pid : Nat) :
    Option ProcessEntry → σ → List (Except Fault Bool)
  | none, s => [firstAttempt probe t pid s]
  | some p, s => match p.refresh probe false s with
    | ((.ok true, q), s, _) =>
      if q.startTicks = p.startTicks then [.ok true]
      else [.ok true, firstAttempt probe t p.pid s]
    | ((result, _), _, _) => [result]

/-- All refreshes of a pass: the numbers in their order and the results. -/
def passAttempts (probe : Probe (Observing σ)) (t : ProcessTable) (loud : Bool) :
    List Nat → Progress → σ → List (Nat × Except Fault Bool)
  | [], _, _ => []
  | pid :: rest, progress, s =>
    (attempts probe t pid (lookup pid progress.processes) s).map (pid, ·) ++
      passAttempts probe t loud rest (visit probe t loud progress pid s).1
        (visit probe t loud progress pid s).2.1

/-- The refreshes that failed, and why. -/
def failures (results : List (Nat × Except Fault Bool)) : List (Nat × Fault) :=
  results.filterMap fun (pid, result) => match result with
    | .ok _ => none
    | .error fault => some (pid, fault)

theorem mem_failures {results : List (Nat × Except Fault Bool)} {fault : Fault} :
    (pid, fault) ∈ failures results ↔ (pid, .error fault) ∈ results := by
  rw [failures, List.mem_filterMap]
  constructor
  · rintro ⟨⟨other, result⟩, hmem, heq⟩
    cases result with
    | ok _ => cases heq
    | error _ => cases heq; exact hmem
  · exact fun h => ⟨_, h, rfl⟩

theorem failures_append (results more : List (Nat × Except Fault Bool)) :
    failures (results ++ more) = failures results ++ failures more :=
  List.filterMap_append

theorem readAfresh_fault (probe : Probe (Observing σ)) (t : ProcessTable) (pid n : Nat) (s : σ) :
    failures [(n, firstAttempt probe t pid s)] =
      (readAfresh probe t pid s).1.fault?.toList.map (n, ·) := by
  simp only [readAfresh, firstAttempt, Observing.bind_run]
  generalize ProcessEntry.refresh probe true _ _ = answer
  obtain ⟨⟨_ | answered, _⟩, _, _⟩ := answer
  · rfl
  · cases answered <;> rfl

/-- Settling a number reports the one refresh that failed, if any did. -/
theorem failures_attempts (probe : Probe (Observing σ)) (t : ProcessTable) (pid : Nat)
    (known : Option ProcessEntry) (s : σ) :
    failures ((attempts probe t pid known s).map (pid, ·)) =
      (settle probe t pid known s).1.fault?.toList.map (pid, ·) := by
  cases known with
  | none => exact readAfresh_fault probe t pid pid s
  | some p =>
    simp only [attempts, settle, refreshKnown, Observing.bind_run]
    generalize p.refresh probe false s = answer
    obtain ⟨⟨_ | answered, q⟩, s, _⟩ := answer
    · rfl
    · cases answered with
      | false => rfl
      | true =>
        by_cases hstart : q.startTicks = p.startTicks
        · simp only [if_pos hstart]
          rfl
        · simp only [if_neg hstart]
          exact readAfresh_fault probe t p.pid pid s

/-! ## One pass -/

def failureMessages (loud : Bool) (failed : List (Nat × Fault)) : List Event :=
  failed.map fun (pid, fault) => .refreshFailed loud pid fault

theorem visit_messages (h : probe.Reticent) (t : ProcessTable) (loud : Bool) (progress : Progress)
    (pid : Nat) (s : σ) :
    messages (visit probe t loud progress pid s).2.2 = failureMessages loud
      (failures ((attempts probe t pid (lookup pid progress.processes) s).map (pid, ·))) := by
  have hsettle : Silent (settle probe t pid (lookup pid progress.processes)) :=
    (h.settles pid).settle rfl rfl fun p hp => pid_of_lookup hp
  rw [failures_attempts]
  simp only [visit, Observing.bind_run, Observing.pure_run, messages_append, hsettle s, h.logs,
    List.nil_append, List.append_nil, Settled.events]
  cases (settle probe t pid (lookup pid progress.processes) s).1.fault? <;> rfl

theorem visit_errors (probe : Probe (Observing σ)) (t : ProcessTable) (loud : Bool)
    (progress : Progress) (pid : Nat) (s : σ) :
    (visit probe t loud progress pid s).1.errors = progress.errors + (failures
      ((attempts probe t pid (lookup pid progress.processes) s).map (pid, ·))).length := by
  rw [failures_attempts, visit_answer, Progress.add]
  cases (settle probe t pid (lookup pid progress.processes) s).1.fault? <;> rfl

theorem visits_messages (h : probe.Reticent) (t : ProcessTable) (loud : Bool) (pids : List Nat)
    (progress : Progress) (s : σ) :
    messages (pids.foldlM (visit probe t loud) progress s).2.2 =
      failureMessages loud (failures (passAttempts probe t loud pids progress s)) := by
  induction pids generalizing progress s with
  | nil => rfl
  | cons pid rest ih =>
    rw [List.foldlM_cons, Observing.bind_run, messages_append, visit_messages h, ih, passAttempts,
      failures_append, failureMessages, failureMessages, failureMessages, List.map_append]

theorem visits_errors (probe : Probe (Observing σ)) (t : ProcessTable) (loud : Bool)
    (pids : List Nat) (progress : Progress) (s : σ) :
    (pids.foldlM (visit probe t loud) progress s).1.errors =
      progress.errors + (failures (passAttempts probe t loud pids progress s)).length := by
  induction pids generalizing progress s with
  | nil => rfl
  | cons pid rest ih =>
    rw [List.foldlM_cons, Observing.bind_run, ih, visit_errors, passAttempts, failures_append,
      List.length_append, Nat.add_assoc]

/-- The refreshes of bringing the table up to date, if the processes could be listed. -/
def refreshAttempts (probe : Probe (Observing σ)) (t : ProcessTable) (s : σ) :
    Option (List (Nat × Except Fault Bool)) :=
  match (probe.listPids s).1 with
  | .error _ => none
  | .ok pids => some (passAttempts probe t (!t.failing) pids
      { processes := t.processes.filter fun p => pids.contains p.pid } (probe.listPids s).2.1)

/-- Whether the last pass had failures, after a pass with these refreshes. -/
def failsAfter (failing : Bool) : Option (List (Nat × Except Fault Bool)) → Bool
  | none => failing
  | some results => !(failures results).isEmpty

/-- What a pass with these refreshes has to say. -/
def tells (failing : Bool) : Option (List (Nat × Except Fault Bool)) → List Event
  | none => []
  | some results => failureMessages (!failing) (failures results) ++
      passEvents failing (failures results).length

theorem refresh_messages (h : probe.Reticent) (t : ProcessTable) (s : σ) :
    messages (t.refresh probe s).2.2 = tells t.failing (refreshAttempts probe t s) := by
  simp only [refresh, Observing.bind_run, messages_append, h.listPids s, List.nil_append]
  cases hlist : (probe.listPids s).1 with
  | error fault => simp only [refreshAttempts, hlist, Observing.pure_run]; rfl
  | ok pids =>
    simp only [refreshAttempts, hlist, Observing.bind_run, Observing.pure_run, messages_append,
      visits_messages h, visits_errors, h.logs, messages_ofPass ofPass_passEvents, Nat.zero_add,
      List.append_nil, tells]

theorem refresh_failing (probe : Probe (Observing σ)) (t : ProcessTable) (s : σ) :
    (t.refresh probe s).1.2.failing = failsAfter t.failing (refreshAttempts probe t s) := by
  cases hlist : (probe.listPids s).1 with
  | error fault =>
    rw [refresh_unlisted hlist]
    simp only [refreshAttempts, hlist, failsAfter]
  | ok pids =>
    rw [refresh_listed hlist]
    simp only [refreshAttempts, hlist, failsAfter, refreshProgress, visits_errors, Nat.zero_add]
    cases failures _ <;> rfl

namespace Pass

/-- The refreshes of a pass, if it came to list the processes. -/
def attempts (pass : Pass σ) (t : ProcessTable) : Option (List (Nat × Except Fault Bool)) :=
  match pass.task with
  | .start => match (pass.probe.bootTime pass.system).1 with
    | .error _ => none
    | .ok bootTime => refreshAttempts pass.probe { t with bootTime }
        (pass.probe.bootTime pass.system).2.1
  | .update _ => refreshAttempts pass.probe t pass.system
  | .sample => refreshAttempts pass.probe t (pass.probe.wallClock pass.system).2.1

def logged (pass : Pass σ) (t : ProcessTable) : List Event :=
  match pass.task with
  | .start => (t.start pass.probe pass.system).2.2
  | .update timedToo => (t.update pass.probe timedToo pass.system).2.2
  | .sample => (t.sample pass.probe pass.system).2.2

end Pass

theorem update_messages (probe : Probe (Observing σ)) (timedToo : Bool) (t : ProcessTable) (s : σ) :
    messages (t.update probe timedToo s).2.2 = messages (t.refresh probe s).2.2 := by
  refine Silent.messages_before (fun answer => ?_) _ s
  match answer with
  | (.error _, _) | (.ok (), _) => exact Silent.pure _

theorem sampleAt_messages (h : probe.Reticent) (now : Timestamp) (t : ProcessTable) (s : σ) :
    messages (t.sampleAt probe now s).2.2 = messages (t.refresh probe s).2.2 := by
  refine Silent.messages_before (fun answer => ?_) _ s
  match answer with
  | (.error _, _) => exact Silent.pure _
  | (.ok (), _) => exact h.monotonicClock.bind fun _ => Silent.pure _

namespace Pass

/-- What a pass has to say is known from its refreshes and from whether the one before it failed. -/
theorem messages_logged (pass : Pass σ) (h : pass.probe.Reticent) (t : ProcessTable) :
    messages (pass.logged t) = tells t.failing (pass.attempts t) := by
  obtain ⟨task, probe, s⟩ := pass
  cases task with
  | start =>
    refine (h.bootTime.messages_after _ s).trans ?_
    simp only [attempts]
    cases (probe.bootTime s).1 with
    | error fault => rfl
    | ok bootTime =>
      refine (Silent.messages_before (fun answer => ?_) _ _).trans
        ((update_messages probe true _ _).trans (refresh_messages h _ _))
      obtain ⟨_ | _, _⟩ := answer
      · exact Silent.pure _
      · exact Silent.bind (fun s => h.log _ s) fun _ => Silent.pure _
  | update timedToo => exact (update_messages probe timedToo t s).trans (refresh_messages h t s)
  | sample =>
    refine (h.wallClock.messages_after _ s).trans ?_
    exact (sampleAt_messages h _ t _).trans (refresh_messages h t _)

theorem failing_run (pass : Pass σ) (t : ProcessTable) :
    (pass.run t).2.failing = failsAfter t.failing (pass.attempts t) := by
  rw [run_eq]
  show (pass.refreshed t).1.2.failing = _
  obtain ⟨task, probe, s⟩ := pass
  simp only [refreshed, attempts]
  cases task with
  | start =>
    simp only []
    cases (probe.bootTime s).1 with
    | error fault => rfl
    | ok bootTime => exact refresh_failing probe { t with bootTime } _
  | update timedToo => exact refresh_failing probe t s
  | sample => exact refresh_failing probe t _

end Pass

/-! ## Runs -/

/-- The refreshes of a pass, if it came to list the processes, and what it had to say. -/
structure Account where
  attempts : Option (List (Nat × Except Fault Bool))
  messages : List Event

def Pass.account (pass : Pass σ) (t : ProcessTable) : Account :=
  ⟨pass.attempts t, SystemMetrics.messages (pass.logged t)⟩

/-- The tables that passes lead to, with the accounts of these passes, the latest first. Each pass
meets a system of its own. -/
inductive Told (cadence : Cadence) : List Account → ProcessTable → Prop
  | new : Told cadence [] (new cadence)
  | pass {σ : Type} {accounts : List Account} {t : ProcessTable} (h : Told cadence accounts t)
      (pass : Pass σ) (hreticent : pass.probe.Reticent) :
      Told cadence (pass.account t :: accounts) (pass.run t).2

/-- Whether a refresh failed in the latest pass that came to list the processes, if there was
one. -/
def lastFailed : List Account → Bool
  | [] => false
  | account :: earlier => failsAfter (lastFailed earlier) account.attempts

/-- What a pass has to say if, in the last pass before it that came to list the processes, a refresh
failed or none did. -/
structure Account.Tells (failed : Bool) (account : Account) : Prop where
  unlisted : account.attempts = none → account.messages = []
  warned : ∀ n, .passHadErrors n ∈ account.messages ↔ ∃ results, account.attempts = some results ∧
    n = (failures results).length ∧ 0 < n ∧ failed = false
  recovered : .passRecovered ∈ account.messages ↔ ∃ results, account.attempts = some results ∧
    failures results = [] ∧ failed = true
  refreshFailed : ∀ loud pid fault, .refreshFailed loud pid fault ∈ account.messages ↔
    ∃ results, account.attempts = some results ∧ (pid, .error fault) ∈ results ∧ loud = !failed
  /-- Only a pass with the warning has anything else to warn of. -/
  warnings : ∀ e ∈ account.messages, e.level = .warn → ∃ n, .passHadErrors n ∈ account.messages

def isSummary : Event → Bool
  | .passHadErrors _ | .passRecovered => true
  | _ => false

/-- The warnings and the recoveries of a run, the oldest first. -/
def summaries (accounts : List Account) : List Event :=
  (accounts.reverse.flatMap (·.messages)).filter isSummary

/-- A warning comes first, and then a recovery and a warning come in turn. -/
def Alternating (l : List Event) : Prop :=
  ∀ i e, l[i]? = some e → if i % 2 = 0 then ∃ n, e = .passHadErrors n else e = .passRecovered

/-! ## What one pass says -/

theorem mem_passEvents {failing : Bool} {errors : Nat} {e : Event} :
    e ∈ passEvents failing errors ↔ (e = .passHadErrors errors ∧ 0 < errors ∧ failing = false) ∨
      (e = .passRecovered ∧ errors = 0 ∧ failing = true) := by
  unfold passEvents
  cases failing with
  | false =>
    by_cases h : 0 < errors
    · simp [h]
    · simp [h]
  | true =>
    by_cases h : errors = 0
    · simp [h]
    · simp [h]

theorem mem_tells {failed : Bool} {results : List (Nat × Except Fault Bool)} {e : Event} :
    e ∈ tells failed (some results) ↔
      (∃ pid fault, (pid, .error fault) ∈ results ∧ e = .refreshFailed (!failed) pid fault) ∨
      (e = .passHadErrors (failures results).length ∧ 0 < (failures results).length ∧
        failed = false) ∨
      (e = .passRecovered ∧ failures results = [] ∧ failed = true) := by
  rw [tells, List.mem_append, mem_passEvents, List.length_eq_zero_iff, failureMessages,
    List.mem_map]
  refine or_congr ⟨?_, ?_⟩ Iff.rfl
  · rintro ⟨⟨pid, fault⟩, hmem, rfl⟩
    exact ⟨pid, fault, mem_failures.mp hmem, rfl⟩
  · rintro ⟨pid, fault, hmem, rfl⟩
    exact ⟨(pid, fault), mem_failures.mpr hmem, rfl⟩

theorem Account.tells {account : Account} {failed : Bool}
    (h : account.messages = ProcessTable.tells failed account.attempts) : account.Tells failed := by
  obtain ⟨attempts, said⟩ := account
  dsimp only at h
  subst h
  cases attempts with
  | none => constructor <;> simp [ProcessTable.tells]
  | some results =>
    have hmem (e : Event) := @mem_tells failed results e
    constructor
    · exact nofun
    · simp [hmem]
    · simp [hmem]
    · intro loud pid fault
      rw [hmem]
      constructor
      · rintro (⟨_, _, hresult, heq⟩ | ⟨heq, -⟩ | ⟨heq, -⟩)
        · cases heq
          exact ⟨results, rfl, hresult, rfl⟩
        · cases heq
        · cases heq
      · rintro ⟨_, heq, hresult, rfl⟩
        cases heq
        exact Or.inl ⟨pid, fault, hresult, rfl⟩
    · intro e he hwarn
      rcases (hmem e).mp he with ⟨pid, fault, hresult, rfl⟩ | ⟨rfl, -⟩ | ⟨rfl, -⟩
      · cases failed with
        | true => cases hwarn
        | false =>
          have hfailure : (pid, fault) ∈ failures results := mem_failures.mpr hresult
          exact ⟨_, (hmem _).mpr (Or.inr (Or.inl ⟨rfl, List.length_pos_of_mem hfailure, rfl⟩))⟩
      · exact ⟨_, he⟩
      · cases hwarn

/-- A pass has at most one warning or recovery, and only where it changes whether passes fail. -/
theorem summary_tells (failed : Bool) (attempts : Option (List (Nat × Except Fault Bool))) :
    ((tells failed attempts).filter isSummary = [] ∧ failsAfter failed attempts = failed) ∨
    (∃ n, (tells failed attempts).filter isSummary = [.passHadErrors n] ∧ failed = false ∧
      failsAfter failed attempts = true) ∨
    ((tells failed attempts).filter isSummary = [.passRecovered] ∧ failed = true ∧
      failsAfter failed attempts = false) := by
  cases attempts with
  | none => exact Or.inl ⟨rfl, rfl⟩
  | some results =>
    have hfailures : (failureMessages (!failed) (failures results)).filter isSummary = [] := by
      rw [List.filter_eq_nil_iff, failureMessages]
      intro e he
      obtain ⟨_, _, rfl⟩ := List.mem_map.mp he
      simp [isSummary]
    rw [tells, List.filter_append, hfailures, List.nil_append, failsAfter]
    cases failures results with
    | nil => cases failed <;> simp [passEvents, isSummary]
    | cons failure rest =>
      cases failed with
      | false =>
        refine Or.inr (Or.inl ⟨(failure :: rest).length, ?_, rfl, rfl⟩)
        simp [passEvents, isSummary]
      | true => exact Or.inl ⟨by simp [passEvents], rfl⟩

/-! ## What a run says -/

theorem summaries_cons (account : Account) (earlier : List Account) :
    summaries (account :: earlier) =
      summaries earlier ++ account.messages.filter isSummary := by
  simp [summaries]

theorem Alternating.append {l : List Event} {e : Event} (h : Alternating l)
    (he : if l.length % 2 = 0 then ∃ n, e = .passHadErrors n else e = .passRecovered) :
    Alternating (l ++ [e]) := by
  intro i e' hi
  rcases Nat.lt_trichotomy i l.length with hlt | rfl | hgt
  · rw [List.getElem?_append_left hlt] at hi
    exact h i e' hi
  · rw [List.getElem?_concat_length] at hi
    cases hi
    exact he
  · rw [List.getElem?_eq_none (by rw [List.length_append, List.length_singleton]; omega)] at hi
    cases hi

theorem Alternating.warned {l : List Event} (h : Alternating l) (heven : l.length % 2 = 0)
    (n : Nat) : Alternating (l ++ [.passHadErrors n]) := by
  refine h.append ?_
  rw [if_pos heven]
  exact ⟨n, rfl⟩

theorem Alternating.recovered {l : List Event} (h : Alternating l) (hodd : l.length % 2 = 1) :
    Alternating (l ++ [.passRecovered]) := by
  refine h.append ?_
  rw [if_neg (by omega)]

namespace Told

variable {cadence : Cadence} {accounts : List Account}

theorem failing_eq (h : Told cadence accounts t) : t.failing = lastFailed accounts := by
  induction h with
  | new => rfl
  | pass _ pass _ ih => rw [pass.failing_run, ih]; rfl

theorem messages_eq (h : Told cadence accounts t) {account : Account} {earlier : List Account}
    (hsuffix : account :: earlier <:+ accounts) :
    account.messages = tells (lastFailed earlier) account.attempts := by
  induction h with
  | new => cases List.suffix_nil.mp hsuffix
  | pass h pass hreticent ih =>
    rcases List.suffix_cons_iff.mp hsuffix with heq | hsuffix
    · cases heq
      rw [← h.failing_eq]
      exact pass.messages_logged hreticent _
    · exact ih hsuffix

/-- The number of messages so far tells whether passes fail at present, and so which message may
come next. -/
theorem summaries_alternate (h : Told cadence accounts t) :
    Alternating (summaries accounts) ∧
      (lastFailed accounts = true ↔ (summaries accounts).length % 2 = 1) := by
  induction h with
  | new => simp [Alternating, summaries, lastFailed]
  | @pass σ accounts t h pass hreticent ih =>
    obtain ⟨halternating, hlast⟩ := ih
    have hmessages := messages_eq (h.pass pass hreticent) (List.suffix_refl _)
    rw [summaries_cons, hmessages, lastFailed]
    rcases summary_tells (lastFailed accounts) (pass.account t).attempts with
      ⟨hsaid, hfails⟩ | ⟨n, hsaid, hbefore, hfails⟩ | ⟨hsaid, hbefore, hfails⟩
    · rw [hsaid, hfails, List.append_nil]
      exact ⟨halternating, hlast⟩
    · have heven : (summaries accounts).length % 2 = 0 := by simpa [hbefore] using hlast
      rw [hsaid, hfails, List.length_append, List.length_singleton]
      exact ⟨halternating.warned heven n, fun _ => by omega, fun _ => rfl⟩
    · have hodd : (summaries accounts).length % 2 = 1 := hlast.mp hbefore
      rw [hsaid, hfails, List.length_append, List.length_singleton]
      exact ⟨halternating.recovered hodd, nofun, fun _ => by omega⟩

/-- Warnings and recoveries alternate. Whatever the passes of a run meet, a pass that cannot list
the processes says nothing. Any other warns, with the number of its refreshes that failed, if some
did and none did in the last pass before it that listed the processes, or if there was none; it
reports the recovery if none failed and some did in that pass; and each refresh that failed is
reported, as a warning only beside the warning of the pass. So over the run a warning comes first,
and then a recovery and a warning in turn. -/
theorem messages_alternate (h : Told cadence accounts t) :
    (∀ account earlier, account :: earlier <:+ accounts → account.Tells (lastFailed earlier)) ∧
    Alternating (summaries accounts) :=
  ⟨fun _ _ hsuffix => Account.tells (h.messages_eq hsuffix), h.summaries_alternate.1⟩

end Told

/-- A pass over a shell and processes that cannot be read, as far as they are listed. -/
def loggedPass (listed : Except Fault (List Nat)) : Pass Unit where
  task := .sample
  probe :=
    { filesOnly [] fun pid name => if pid = 7 then shellFile 100 name else .ok "no columns" with
      listPids := return listed
      log := Observing.log }
  system := ()

theorem loggedPass_reticent (listed : Except Fault (List Nat)) :
    (loggedPass listed).probe.Reticent where
  listPids := Silent.pure _
  settles _ := ⟨⟨fun _ => Silent.pure _, Silent.pure _⟩, Silent.pure _, Silent.pure _⟩
  bootTime := Silent.pure _
  wallClock := Silent.pure _
  monotonicClock := Silent.pure _
  log _ _ := rfl

/-- Two processes cannot be read and then three; one pass in between cannot list any. The pass after
these finds only the shell. -/
theorem messages_alternate_logged :
    ∃ accounts t, Told ⟨.ofSeconds 60, 2⟩ accounts t ∧
      accounts.map (·.attempts.map List.length) = [some 1, some 4, none, some 3] ∧
      (∀ account earlier, account :: earlier <:+ accounts → account.Tells (lastFailed earlier)) ∧
      Alternating (summaries accounts) ∧
      summaries accounts = [.passHadErrors 2, .passRecovered] := by
  have hrun : Told ⟨.ofSeconds 60, 2⟩ _ _ :=
    (((Told.new.pass _ (loggedPass_reticent (.ok [5, 7, 9]))).pass _
      (loggedPass_reticent (.error (.internal "list" "")))).pass _
      (loggedPass_reticent (.ok [5, 7, 9, 11]))).pass _ (loggedPass_reticent (.ok [7]))
  obtain ⟨htells, halternating⟩ := Told.messages_alternate hrun
  exact ⟨_, _, hrun, by decide +kernel, htells, halternating, by decide +kernel⟩

end ProcessTable

end SystemMetrics
