import SystemMetrics.Proofs.Process.Refresh

/-!
# Runs of passes over the table

A pass first brings the table up to date, one listed number after the other, and then does the same
to every process of the table. A run is any sequence of passes; each of them meets a system of its
own, which answers as it likes. The records of a run say what each pass did to the processes.
-/

namespace SystemMetrics.ProcessTable

variable {σ : Type} {probe : Probe (Observing σ)} {t : ProcessTable} {s : σ}

/-! ## Bringing the table up to date -/

theorem visit_answer (probe : Probe (Observing σ)) (t : ProcessTable) (loud : Bool)
    (progress : Progress) (pid : Nat) (s : σ) :
    (visit probe t loud progress pid s).1 =
      progress.add pid (settle probe t pid (lookup pid progress.processes) s).1 := rfl

/-- Every process of the later list goes on from the earlier list. -/
def Continues (history : Nat) (before after : List ProcessEntry) : Prop :=
  ∀ pid q, lookup pid after = some q → GoesOn history (lookup pid before) q

theorem Continues.refl {history : Nat} (ps : List ProcessEntry) : Continues history ps ps :=
  fun _ q hq => Or.inl ⟨q, hq, rfl, rfl⟩

theorem Continues.trans {history : Nat} {ps qs rs : List ProcessEntry}
    (h : Continues history ps qs) (h' : Continues history qs rs) : Continues history ps rs := by
  intro pid r hr
  rcases h' pid r hr with ⟨q, hq, hstart, htrail⟩ | hblank
  · exact (h pid q hq).trans (Or.inl ⟨q, rfl, hstart, htrail⟩)
  · exact Or.inr hblank

theorem lookup_visit (probe : Probe (Observing σ)) (t : ProcessTable) (loud : Bool)
    (progress : Progress) (pid other : Nat) (s : σ) :
    lookup pid (visit probe t loud progress other s).1.processes =
      if pid = other then (settle probe t other (lookup other progress.processes) s).1.process?
      else lookup pid progress.processes := by
  rw [visit_answer]
  exact lookup_put pid other
    (fun p hp => (settle_process (fun q hq => pid_of_lookup hq) hp).1) progress.processes

theorem visit_continues (probe : Probe (Observing σ)) (t : ProcessTable) (loud : Bool)
    (progress : Progress) (pid : Nat) (s : σ) :
    Continues t.cadence.history progress.processes
      (visit probe t loud progress pid s).1.processes := by
  intro other q hq
  rw [lookup_visit] at hq
  by_cases h : other = pid
  · rw [if_pos h] at hq
    rw [h]
    exact (settle_process (fun p hp => pid_of_lookup hp) hq).2
  · rw [if_neg h] at hq
    exact Continues.refl _ other q hq

theorem visits_continue (probe : Probe (Observing σ)) (t : ProcessTable) (loud : Bool)
    (pids : List Nat) (progress : Progress) (s : σ) :
    Continues t.cadence.history progress.processes
      (pids.foldlM (visit probe t loud) progress s).1.processes := by
  induction pids generalizing progress s with
  | nil => exact Continues.refl _
  | cons pid rest ih =>
    rw [List.foldlM_cons]
    exact (visit_continues probe t loud progress pid s).trans (ih _ _)

theorem visits_ascending (probe : Probe (Observing σ)) (t : ProcessTable) (loud : Bool)
    (pids : List Nat) {progress : Progress} (h : Ascending progress.processes) (s : σ) :
    Ascending (pids.foldlM (visit probe t loud) progress s).1.processes := by
  induction pids generalizing progress s with
  | nil => exact h
  | cons pid rest ih =>
    rw [List.foldlM_cons]
    exact ih (h.put pid _) _

theorem lookup_visits_of_notMem (probe : Probe (Observing σ)) (t : ProcessTable) (loud : Bool)
    {pid : Nat} {pids : List Nat} (h : pid ∉ pids) (progress : Progress) (s : σ) :
    lookup pid (pids.foldlM (visit probe t loud) progress s).1.processes =
      lookup pid progress.processes := by
  induction pids generalizing progress s with
  | nil => rfl
  | cons other rest ih =>
    rw [List.mem_cons, not_or] at h
    rw [List.foldlM_cons, Observing.bind_run]
    rw [ih h.2, lookup_visit, if_neg h.1]

/-- The state of a refresh after the numbers that were listed. -/
def refreshProgress (probe : Probe (Observing σ)) (t : ProcessTable) (pids : List Nat) (s : σ) :
    Progress :=
  (pids.foldlM (visit probe t !t.failing)
    { processes := t.processes.filter fun p => pids.contains p.pid } s).1

theorem refresh_listed {pids : List Nat} (h : (probe.listPids s).1 = .ok pids) :
    (t.refresh probe s).1 = (.ok (), { t with
      processes := (refreshProgress probe t pids (probe.listPids s).2.1).processes
      failing := (refreshProgress probe t pids (probe.listPids s).2.1).errors > 0 }) := by
  simp only [refresh, Observing.bind_run, h]
  rfl

theorem refresh_unlisted {fault : Fault} (h : (probe.listPids s).1 = .error fault) :
    (t.refresh probe s).1 = (.error fault, t) := by
  simp only [refresh, Observing.bind_run, h]
  rfl

theorem refresh_cadence (probe : Probe (Observing σ)) (t : ProcessTable) (s : σ) :
    (t.refresh probe s).1.2.cadence = t.cadence := by
  cases h : (probe.listPids s).1 with
  | error fault => rw [refresh_unlisted h]
  | ok pids => rw [refresh_listed h]

theorem refresh_ascending (probe : Probe (Observing σ)) (h : Ascending t.processes) (s : σ) :
    Ascending (t.refresh probe s).1.2.processes := by
  cases hl : (probe.listPids s).1 with
  | error fault =>
    rw [refresh_unlisted hl]
    exact h
  | ok pids =>
    rw [refresh_listed hl]
    exact visits_ascending probe t _ pids (h.filter _) _

theorem lookup_listed (pid : Nat) (pids : List Nat) (ps : List ProcessEntry) :
    lookup pid (ps.filter fun p => pids.contains p.pid) =
      if pid ∈ pids then lookup pid ps else none := by
  rw [lookup_filter pid (fun n => pids.contains n)]
  simp only [List.contains_iff_mem]

/-- Only listed numbers are left. -/
theorem pid_mem_listed {pids : List Nat} {p : ProcessEntry}
    (hp : p ∈ (refreshProgress probe t pids s).processes) : p.pid ∈ pids := by
  refine Decidable.byContradiction fun hpid => ?_
  have hnone : lookup p.pid (refreshProgress probe t pids s).processes = none := by
    rw [refreshProgress, lookup_visits_of_notMem probe t _ hpid, lookup_listed, if_neg hpid]
  exact List.find?_eq_none.mp hnone p hp (beq_self_eq_true _)

theorem update_unlisted {fault : Fault} (h : (probe.listPids s).1 = .error fault)
    (timedToo : Bool) : (t.update probe timedToo s).1 = (.error fault, t) := by
  simp only [update, Observing.bind_run, refresh_unlisted h]
  rfl

theorem update_of_refresh {refreshed : ProcessTable}
    (h : (t.refresh probe s).1 = (.ok (), refreshed)) (timedToo : Bool) :
    (t.update probe timedToo s).1 = (.ok (), { refreshed with
      processes := if timedToo then refreshed.processes.map ProcessEntry.updateTimed
        else refreshed.processes }) := by
  simp only [update, Observing.bind_run, h]
  rfl

theorem refresh_continues (probe : Probe (Observing σ)) (t : ProcessTable) (s : σ) :
    Continues t.cadence.history t.processes (t.refresh probe s).1.2.processes := by
  cases hl : (probe.listPids s).1 with
  | error fault =>
    rw [refresh_unlisted hl]
    exact Continues.refl _
  | ok pids =>
    rw [refresh_listed hl]
    refine Continues.trans (fun pid q hq => ?_) (visits_continue probe t _ pids _ _)
    rw [lookup_listed] at hq
    split at hq
    · exact Continues.refl _ pid q hq
    · cases hq

/-! ## Passes -/

inductive Task where
  | start
  | update (timedToo : Bool)
  | sample
  deriving DecidableEq, Repr

/-- A pass, with the system that it meets. -/
structure Pass (σ : Type) where
  task : Task
  probe : Probe (Observing σ)
  system : σ

/-- What a pass does to every process of the refreshed table. -/
inductive Effect where
  | none
  | timed
  | sampled (now : Timestamp) (takenAt : Nat)
  deriving DecidableEq, Repr

def Effect.apply : Effect → ProcessEntry → ProcessEntry
  | .none, p => p
  | .timed, p => p.updateTimed
  | .sampled now takenAt, p => p.sample now takenAt

@[simp] theorem Effect.apply_pid (e : Effect) (p : ProcessEntry) : (e.apply p).pid = p.pid := by
  cases e <;> rfl

@[simp] theorem Effect.apply_startTicks (e : Effect) (p : ProcessEntry) :
    (e.apply p).startTicks = p.startTicks := by
  cases e <;> rfl

/-- An effect changes the trail and nothing else. -/
@[simp] theorem Effect.apply_withTrail (e : Effect) (p : ProcessEntry) :
    (e.apply p).withTrail p.trail = p := by
  cases e <;> rfl

namespace Pass

def run (pass : Pass σ) (t : ProcessTable) : Except Fault Unit × ProcessTable :=
  match pass.task with
  | .start => (t.start pass.probe pass.system).1
  | .update timedToo => (t.update pass.probe timedToo pass.system).1
  | .sample => (t.sample pass.probe pass.system).1

/-- The refresh at the start of a pass, and the system after it. -/
def refreshed (pass : Pass σ) (t : ProcessTable) : (Except Fault Unit × ProcessTable) × σ :=
  let refreshFrom (t : ProcessTable) (s : σ) :=
    ((t.refresh pass.probe s).1, (t.refresh pass.probe s).2.1)
  match pass.task with
  | .start => match (pass.probe.bootTime pass.system).1 with
    | .error fault => ((.error fault, t), (pass.probe.bootTime pass.system).2.1)
    | .ok bootTime => refreshFrom { t with bootTime } (pass.probe.bootTime pass.system).2.1
  | .update _ => refreshFrom t pass.system
  | .sample => refreshFrom t (pass.probe.wallClock pass.system).2.1

/-- The effect of a pass on every process. A sampling pass read the wall clock before its refresh
and the monotonic clock after it. -/
def effect (pass : Pass σ) (t : ProcessTable) : Effect :=
  match (pass.refreshed t).1.1, pass.task with
  | .error _, _ => .none
  | .ok (), .start => .timed
  | .ok (), .update timedToo => if timedToo then .timed else .none
  | .ok (), .sample => .sampled (pass.probe.wallClock pass.system).1
      (pass.probe.monotonicClock (pass.refreshed t).2).1

/-- A pass is a refresh and then one effect on every process. -/
theorem run_eq (pass : Pass σ) (t : ProcessTable) :
    pass.run t = ((pass.refreshed t).1.1, { (pass.refreshed t).1.2 with
      processes := (pass.refreshed t).1.2.processes.map (pass.effect t).apply }) := by
  have hnone (t : ProcessTable) :
      { t with processes := t.processes.map Effect.none.apply } = t := by
    rw [show Effect.none.apply = id from rfl, List.map_id]
  obtain ⟨task, probe, s⟩ := pass
  cases task with
  | start =>
    simp only [run, refreshed, effect, ProcessTable.start, Observing.bind_run]
    cases (probe.bootTime s).1 with
    | error fault => exact congrArg (Prod.mk _) (hnone t).symm
    | ok bootTime =>
      simp only [ProcessTable.update, Observing.bind_run]
      generalize ProcessTable.refresh probe _ _ = r
      obtain ⟨⟨_ | _, t'⟩, s', log⟩ := r
      · exact congrArg (Prod.mk _) (hnone t').symm
      · rfl
  | update timedToo =>
    simp only [run, refreshed, effect, ProcessTable.update, Observing.bind_run]
    generalize ProcessTable.refresh probe _ _ = r
    obtain ⟨⟨_ | _, t'⟩, s', log⟩ := r
    · exact congrArg (Prod.mk _) (hnone t').symm
    · cases timedToo with
      | false => exact congrArg (Prod.mk _) (hnone t').symm
      | true => rfl
  | sample =>
    simp only [run, refreshed, effect, ProcessTable.sample, ProcessTable.sampleAt,
      Observing.bind_run]
    generalize ProcessTable.refresh probe _ _ = r
    obtain ⟨⟨_ | _, t'⟩, s', log⟩ := r
    · exact congrArg (Prod.mk _) (hnone t').symm
    · rfl

/-- A pass refreshes the table as it is, up to the time of boot. -/
theorem refreshed_table (pass : Pass σ) (t : ProcessTable) :
    (pass.refreshed t).1.2 = t ∨ ∃ bootTime s,
      (pass.refreshed t).1.2 = (({ t with bootTime } : ProcessTable).refresh pass.probe s).1.2 := by
  obtain ⟨task, probe, s⟩ := pass
  cases task with
  | start =>
    simp only [refreshed]
    cases (probe.bootTime s).1 with
    | error fault => exact Or.inl rfl
    | ok bootTime => exact Or.inr ⟨bootTime, _, rfl⟩
  | update _ => exact Or.inr ⟨t.bootTime, _, rfl⟩
  | sample => exact Or.inr ⟨t.bootTime, _, rfl⟩

theorem refreshed_continues (pass : Pass σ) (t : ProcessTable) :
    Continues t.cadence.history t.processes (pass.refreshed t).1.2.processes := by
  rcases pass.refreshed_table t with h | ⟨bootTime, s, h⟩
  · rw [h]
    exact Continues.refl _
  · rw [h]
    exact refresh_continues pass.probe { t with bootTime } s

theorem run_cadence (pass : Pass σ) (t : ProcessTable) : (pass.run t).2.cadence = t.cadence := by
  rw [run_eq]
  show (pass.refreshed t).1.2.cadence = t.cadence
  rcases pass.refreshed_table t with h | ⟨bootTime, s, h⟩
  · rw [h]
  · rw [h]
    exact refresh_cadence pass.probe { t with bootTime } s

theorem run_ascending (pass : Pass σ) (h : Ascending t.processes) :
    Ascending (pass.run t).2.processes := by
  rw [run_eq]
  refine Ascending.map ?_ (fun p => Effect.apply_pid _ p)
  rcases pass.refreshed_table t with h' | ⟨bootTime, s, h'⟩
  · rw [h']
    exact h
  · rw [h']
    exact refresh_ascending pass.probe (t := { t with bootTime }) h s

theorem find?_run (pass : Pass σ) (t : ProcessTable) (pid : Nat) :
    (pass.run t).2.find? pid = ((pass.refreshed t).1.2.find? pid).map (pass.effect t).apply := by
  rw [run_eq]
  exact lookup_map pid (fun p => Effect.apply_pid _ p) _

end Pass

/-! ## Runs -/

/-- What a pass did to the processes, and the table that it left. -/
structure Record where
  effect : Effect
  table : ProcessTable
  deriving DecidableEq, Repr

/-- The tables that passes lead to, with the records of these passes, the latest first. -/
inductive Run (cadence : Cadence) : List Record → ProcessTable → Prop
  | new : Run cadence [] (new cadence)
  | pass {σ : Type} {records : List Record} {t : ProcessTable} (h : Run cadence records t)
      (pass : Pass σ) : Run cadence (⟨pass.effect t, (pass.run t).2⟩ :: records) (pass.run t).2

namespace Run

variable {cadence : Cadence} {records : List Record}

theorem cadence_eq (h : Run cadence records t) : t.cadence = cadence := by
  induction h with
  | new => rfl
  | pass _ pass ih => rw [pass.run_cadence, ih]

theorem ascending (h : Run cadence records t) : Ascending t.processes := by
  induction h with
  | new => exact List.Pairwise.nil
  | pass _ pass ih => exact pass.run_ascending ih

end Run

/-! ## A system of processes -/

/-- A system that has nothing but the files of some processes, all owned by the superuser. -/
def filesOnly {m : Type → Type} [Monad m] (pids : List Nat)
    (file : (pid : Nat) → (name : String) → Except ReadError String) : Probe m where
  systemStat := return .ok "btime 1000\n"
  cpuInfo := return .ok ""
  memInfo := return .ok ""
  vmStat := return .ok ""
  netDev := return .ok ""
  processorsOnline := return .ok 1
  listPids := return .ok pids
  processFile := fun pid name => return file pid name
  processBytes := fun pid name => return (file pid name).map fun text => text.toUTF8.toList
  processOwner := fun _ => return .ok (0, 0)
  processExecutable := fun pid => return file pid "exe"
  bootTime := return .ok 1000
  clockTicks := return 100
  pageSize := return 4096
  sendSignal := fun _ _ => return .ok true
  interfaceAttributes := fun _ => return {}
  wallClock := return ⟨2000⟩
  monotonicClock := return 0
  log := fun _ => return ()

/-- The files of a running shell that began at `start`. -/
def shellFile (start : Nat) (name : String) : Except ReadError String :=
  match name with
  | "stat" => .ok ("7 (sh) R 1 7 7 0 -1 0 0 0 2 0 10 5 0 0 20 0 1 0 " ++ toString start ++ " 0 0")
  | "statm" => .ok "900 300 200 1 0 90 0"
  | "io" => .ok "syscr: 4\nsyscw: 2\n"
  | _ => .error (.described .notFound name)

/-- A sampling pass that meets nothing but a shell that began at `start`. -/
def shellPass (start : Nat) : Pass Unit := ⟨.sample, filesOnly [7] fun _ => shellFile start, ()⟩

def sampledTwice : ProcessTable :=
  ((shellPass 100).run ((shellPass 100).run (new ⟨.ofSeconds 60, 2⟩)).2).2

end SystemMetrics.ProcessTable
