import SystemMetrics.Proofs.Process.Rebuild

/-!
# Refreshing twice

On a system that stands still, a second refresh finds nothing to do. What decides how a number fares
is the view alone: whatever is known under the number, reading it gets through, or finds the process
gone, or ends with the same fault. So the first refresh leaves every number at rest, and counts as
many errors as any later one.
-/

namespace SystemMetrics

namespace ProcessEntry

variable {view : Probe Id} {p q : ProcessEntry} {pid : Nat}

/-! ## How readings of a number end -/

/-- How every reading of a number ends early on a view, if it does. -/
def halt? (view : Probe Id) (pid : Nat) : Option Interruption :=
  match reading view true (new view pid 0 0) with
  | .ok _ => none
  | .error e => some e

/-- Whether readings of a number end with a fault. -/
def isFaulty (view : Probe Id) (pid : Nat) : Bool :=
  match halt? view pid with
  | some (.fault _) => true
  | _ => false

theorem reading_cases (howner : HasOwner view pid) (hpid : p.pid = pid) (initial : Bool) :
    (∃ e, halt? view pid = some e ∧ reading view initial p = .error e) ∨
      halt? view pid = none ∧ ∃ q, reading view initial p = .ok q := by
  subst hpid
  have hfirst : (new view p.pid 0 0 : ProcessEntry).pid = p.pid := rfl
  rw [halt?]
  rcases reading_agrees hfirst howner initial true with ⟨e, h, h'⟩ | ⟨q, q', h, h', -⟩
  · rw [h']
    exact .inl ⟨e, rfl, h⟩
  · rw [h']
    exact .inr ⟨rfl, q, h⟩

/-- Sampling and recomputing change nothing that is read. -/
theorem reading_apply (h : reading view false p = .ok p) (e : ProcessTable.Effect) :
    reading view false (e.apply p) = .ok (e.apply p) := by
  obtain ⟨stat, owner, statm, read, hstat, -, hstatm, hread, hp⟩ := reading_ok h
  have hagain : reading view false (e.apply p) =
      .ok { e.apply p with stat, statm, io := read.1, accessViolation := read.2 } := by
    cases e <;> exact reading_of_reads hstat hstatm hread
  rw [hagain]
  congr 1
  rw [hp]
  cases e <;> rfl

end ProcessEntry

namespace ProcessTable

open ProcessEntry

variable {σ : Type} {probe : Probe (Observing σ)} {view : Probe Id} {still : σ → Prop} {s : σ}
  {t : ProcessTable} {pid : Nat} {pids : List Nat} {known found : Option ProcessEntry}

/-! ## One number -/

/-- The three ways of settling a number, of which the view picks one. A process that already says
what the view says is kept. -/
inductive SettledBy (view : Probe Id) (pid : Nat) (known : Option ProcessEntry) : Settled → Prop
  | gone (h : halt? view pid = some .gone) : SettledBy view pid known {}
  | fault {f : Fault} (h : halt? view pid = some (.fault f)) :
      SettledBy view pid known { process? := known, fault? := some f }
  | read {q : ProcessEntry} (h : halt? view pid = none) (hq : reading view false q = .ok q)
      (hkept : ∀ p, known = some p → reading view false p = .ok p → q = p) :
      SettledBy view pid known { process? := some q }

theorem readAfresh_settledBy (hview : ShowsProcesses probe view still)
    (howner : HasOwner view pid) (t : ProcessTable) (hs : still s) :
    SettledBy view pid none (readAfresh probe t pid s).1 := by
  have hnew := hview.new pid t.bootTime t.cadence.history s hs
  have hrefresh := (hview.refresh true
    (ProcessEntry.new probe pid t.bootTime t.cadence.history s).1 _ hnew).1
  rw [refresh_view] at hrefresh
  simp only [readAfresh, Observing.bind_run]
  rcases reading_cases howner (new_pid probe pid t.bootTime t.cadence.history s) true with
    ⟨e, hhalt, h⟩ | ⟨hhalt, q, h⟩
  · rw [h] at hrefresh
    rw [hrefresh]
    cases e with
    | gone => exact .gone hhalt
    | fault f => exact .fault hhalt
  · rw [h] at hrefresh
    rw [hrefresh]
    exact .read hhalt (reading_again h) fun _ hnone => by cases hnone

theorem refreshKnown_settledBy (hview : ShowsProcesses probe view still) {p : ProcessEntry}
    (howner : HasOwner view p.pid) (t : ProcessTable) (hs : still s) :
    SettledBy view p.pid (some p) (refreshKnown probe t p s).1 := by
  obtain ⟨hrefresh, hstill⟩ := hview.refresh false p s hs
  have hafresh := readAfresh_settledBy hview howner t hstill
  rw [refresh_view] at hrefresh
  simp only [refreshKnown, Observing.bind_run]
  rcases reading_cases howner rfl false with ⟨e, hhalt, h⟩ | ⟨hhalt, q, h⟩
  · rw [h] at hrefresh
    rw [hrefresh]
    cases e with
    | gone => exact .gone hhalt
    | fault f => exact .fault hhalt
  · rw [h] at hrefresh
    rw [hrefresh]
    by_cases hstart : q.startTicks = p.startTicks
    · simp only [commit, if_pos hstart]
      refine .read hhalt (reading_again h) ?_
      rintro _ ⟨⟩ hp
      exact Except.ok.inj (h.symm.trans hp)
    · simp only [commit, if_neg hstart]
      generalize (readAfresh probe t p.pid _).1 = settled at hafresh
      cases hafresh with
      | gone hgone => cases hhalt.symm.trans hgone
      | fault hfault => cases hhalt.symm.trans hfault
      | read _ hr _ =>
        refine .read hhalt hr ?_
        -- A process that says what the view says has not been replaced.
        rintro _ ⟨⟩ hp
        exact absurd (congrArg startTicks (Except.ok.inj (h.symm.trans hp))) hstart

theorem settle_settledBy (hview : ShowsProcesses probe view still) (howner : HasOwner view pid)
    (t : ProcessTable) (hknown : ∀ p, known = some p → p.pid = pid) (hs : still s) :
    SettledBy view pid known (settle probe t pid known s).1 := by
  cases known with
  | none => exact readAfresh_settledBy hview howner t hs
  | some p =>
    obtain rfl := hknown p rfl
    exact refreshKnown_settledBy hview howner t hs

/-- What is found under a number is what the view says of it. If reading it ends with a fault,
anything may be found. -/
structure AtRest (view : Probe Id) (pid : Nat) (found : Option ProcessEntry) : Prop where
  gone : halt? view pid = some .gone → found = none
  read : halt? view pid = none → ∃ p, found = some p ∧ reading view false p = .ok p

variable {settled : Settled}

theorem SettledBy.atRest (h : SettledBy view pid known settled) :
    AtRest view pid settled.process? := by
  cases h with
  | gone hhalt =>
    constructor
    · exact fun _ => rfl
    · intro hread
      cases hhalt.symm.trans hread
  | fault hhalt =>
    constructor
    · intro hgone
      cases hhalt.symm.trans hgone
    · intro hread
      cases hhalt.symm.trans hread
  | @read q hhalt hq _ =>
    constructor
    · intro hgone
      cases hhalt.symm.trans hgone
    · exact fun _ => ⟨q, rfl, hq⟩

/-- Settling leaves what is at rest. -/
theorem SettledBy.kept (h : SettledBy view pid known settled) (hrest : AtRest view pid known) :
    settled.process? = known := by
  cases h with
  | gone hhalt => exact (hrest.gone hhalt).symm
  | fault _ => rfl
  | read hhalt _ hkept =>
    obtain ⟨p, rfl, hp⟩ := hrest.read hhalt
    exact congrArg some (hkept p rfl hp)

/-- Whether settling a number counts as an error is up to the view. -/
theorem SettledBy.isFaulty_eq (h : SettledBy view pid known settled) :
    settled.fault?.isSome = isFaulty view pid := by
  rw [isFaulty]
  cases h with
  | gone hhalt | fault hhalt | read hhalt => rw [hhalt]; rfl

theorem AtRest.map (h : AtRest view pid found) (e : Effect) :
    AtRest view pid (found.map e.apply) := by
  refine ⟨fun hgone => ?_, fun hread => ?_⟩
  · rw [h.gone hgone]
    rfl
  · obtain ⟨p, rfl, hp⟩ := h.read hread
    exact ⟨e.apply p, rfl, reading_apply hp e⟩

/-! ## All numbers -/

/-- A visit settles what was found under its number so far. -/
theorem visit_settledBy (hview : ShowsProcesses probe view still) (howner : HasOwner view pid)
    (t : ProcessTable) (progress : Progress) (hs : still s) :
    SettledBy view pid (lookup pid progress.processes)
      (settle probe t pid (lookup pid progress.processes) s).1 :=
  settle_settledBy hview howner t (fun _ => pid_of_lookup) hs

theorem visits_errors_steady (hview : ShowsProcesses probe view still)
    (howner : ∀ pid ∈ pids, HasOwner view pid) (t : ProcessTable) (loud : Bool)
    (progress : Progress) (hs : still s) :
    (pids.foldlM (visit probe t loud) progress s).1.errors =
      progress.errors + pids.countP (isFaulty view) := by
  induction pids generalizing progress s with
  | nil => rfl
  | cons pid rest ih =>
    rw [List.forall_mem_cons] at howner
    rw [List.foldlM_cons, Observing.bind_run]
    have hsettled := visit_settledBy hview howner.1 t progress hs
    refine (ih howner.2 _ (hview.visit t loud progress pid s hs)).trans ?_
    rw [visit_answer, Progress.add, hsettled.isFaulty_eq, List.countP_cons,
      Nat.add_comm (rest.countP _), ← Nat.add_assoc]

theorem visits_atRest (hview : ShowsProcesses probe view still)
    (howner : ∀ pid ∈ pids, HasOwner view pid) (t : ProcessTable) (loud : Bool)
    (progress : Progress) (hs : still s) (hpid : pid ∈ pids) :
    AtRest view pid (lookup pid (pids.foldlM (visit probe t loud) progress s).1.processes) := by
  induction pids generalizing progress s with
  | nil => cases hpid
  | cons other rest ih =>
    rw [List.foldlM_cons, Observing.bind_run]
    by_cases hrest : pid ∈ rest
    · exact ih (fun n hn => howner n (List.mem_cons_of_mem _ hn)) _
        (hview.visit t loud progress other s hs) hrest
    · -- The last visit to a number decides what is found under it.
      obtain rfl : pid = other := (List.mem_cons.mp hpid).resolve_right hrest
      rw [lookup_visits_of_notMem probe t loud hrest, lookup_visit, if_pos rfl]
      exact (visit_settledBy hview (howner pid hpid) t progress hs).atRest

theorem visits_of_atRest (hview : ShowsProcesses probe view still)
    (howner : ∀ pid ∈ pids, HasOwner view pid) (t : ProcessTable) (loud : Bool)
    {progress : Progress} (hascending : Ascending progress.processes)
    (hrest : ∀ pid ∈ pids, AtRest view pid (lookup pid progress.processes)) (hs : still s) :
    (pids.foldlM (visit probe t loud) progress s).1.processes = progress.processes := by
  induction pids generalizing progress s with
  | nil => rfl
  | cons pid rest ih =>
    rw [List.forall_mem_cons] at howner hrest
    have hvisit : (visit probe t loud progress pid s).1.processes = progress.processes := by
      rw [visit_answer, Progress.add]
      dsimp only
      rw [(visit_settledBy hview howner.1 t progress hs).kept hrest.1]
      exact hascending.put_lookup pid
    rw [List.foldlM_cons, Observing.bind_run]
    refine (ih howner.2 ?_ ?_ (hview.visit t loud progress pid s hs)).trans hvisit
    · rw [hvisit]
      exact hascending
    · rw [hvisit]
      exact hrest.2

/-- A table on which a refresh has nothing to do. -/
structure UpToDate (view : Probe Id) (pids : List Nat) (t : ProcessTable) : Prop where
  ascending : Ascending t.processes
  listed : ∀ p ∈ t.processes, p.pid ∈ pids
  atRest : ∀ pid ∈ pids, AtRest view pid (t.find? pid)
  failing : t.failing = decide (pids.countP (isFaulty view) > 0)

theorem refresh_upToDate (hview : ShowsProcesses probe view still)
    (hpids : view.listPids = .ok pids) (howner : ∀ pid ∈ pids, HasOwner view pid)
    (h : Ascending t.processes) (hs : still s) :
    (t.refresh probe s).1.1 = .ok () ∧ UpToDate view pids (t.refresh probe s).1.2 := by
  obtain ⟨hanswer, hstill⟩ := hview.listPids s hs
  have hascending := refresh_ascending probe h s
  rw [refresh_listed (hanswer.trans hpids)] at hascending ⊢
  refine ⟨rfl, hascending, fun p hp => pid_mem_listed hp, fun pid hpid => ?_, ?_⟩
  · exact visits_atRest hview howner t _ _ hstill hpid
  · show decide _ = _
    rw [refreshProgress, visits_errors_steady hview howner t _ _ hstill, Nat.zero_add]

theorem UpToDate.refresh (h : UpToDate view pids t) (hview : ShowsProcesses probe view still)
    (hpids : view.listPids = .ok pids) (howner : ∀ pid ∈ pids, HasOwner view pid)
    (hs : still s) : (t.refresh probe s).1 = (.ok (), t) := by
  obtain ⟨hanswer, hstill⟩ := hview.listPids s hs
  have hlisted : (t.processes.filter fun p => pids.contains p.pid) = t.processes :=
    List.filter_eq_self.mpr fun p hp => List.contains_iff_mem.mpr (h.listed p hp)
  have hprocesses : (refreshProgress probe t pids (probe.listPids s).2.1).processes =
      t.processes := by
    rw [refreshProgress, hlisted]
    exact visits_of_atRest hview howner t _ h.ascending h.atRest hstill
  have herrors : (refreshProgress probe t pids (probe.listPids s).2.1).errors =
      pids.countP (isFaulty view) := by
    rw [refreshProgress, visits_errors_steady hview howner t _ _ hstill, Nat.zero_add]
  rw [refresh_listed (hanswer.trans hpids), hprocesses, herrors, ← h.failing]

theorem UpToDate.map (h : UpToDate view pids t) (e : Effect) :
    UpToDate view pids { t with processes := t.processes.map e.apply } where
  ascending := h.ascending.map e.apply_pid
  listed := by
    intro q hq
    obtain ⟨p, hp, rfl⟩ := List.mem_map.mp hq
    rw [e.apply_pid]
    exact h.listed p hp
  atRest := by
    intro pid hpid
    show AtRest view pid (lookup pid (t.processes.map e.apply))
    rw [lookup_map pid e.apply_pid]
    exact (h.atRest pid hpid).map e
  failing := h.failing

theorem update_upToDate (hview : ShowsProcesses probe view still)
    (hpids : view.listPids = .ok pids) (howner : ∀ pid ∈ pids, HasOwner view pid)
    (h : Ascending t.processes) (hs : still s) (timedToo : Bool) :
    (t.update probe timedToo s).1.1 = .ok () ∧
      UpToDate view pids (t.update probe timedToo s).1.2 := by
  obtain ⟨hok, hrefreshed⟩ := refresh_upToDate hview hpids howner h hs
  rw [update_of_refresh (Prod.ext hok rfl)]
  refine ⟨rfl, ?_⟩
  cases timedToo with
  | false => exact hrefreshed
  | true => exact hrefreshed.map .timed

/-- Timed values that were just recomputed are recomputed as they are. -/
theorem update_timed_again (timedToo : Bool) {refreshed : ProcessTable} {r : σ}
    (h : (t.refresh probe s).1 = (.ok (), refreshed))
    (hagain : ((t.update probe timedToo s).1.2.refresh probe r).1 =
      (.ok (), (t.update probe timedToo s).1.2)) :
    ((t.update probe timedToo s).1.2.update probe timedToo r).1 =
      (.ok (), (t.update probe timedToo s).1.2) := by
  rw [update_of_refresh hagain, update_of_refresh h]
  cases timedToo with
  | false => rfl
  | true => simp [Function.comp_def, ProcessEntry.updateTimed]

/-- Refreshing is idempotent. Whatever passes a table has gone through, a refresh on a view that
lists its processes, each of them with an owner where its `stat` can be read, succeeds, and another
one on the same view leaves the table as it is, in every field of every process and in whether the
pass had errors. The same holds of an update, with or without the timed values. -/
theorem Run.refresh_idempotent {cadence : Cadence} {records : List Record}
    (h : Run cadence records t) (hview : ShowsProcesses probe view still)
    (hpids : view.listPids = .ok pids) (howner : ∀ pid ∈ pids, HasOwner view pid)
    (hs : still s) :
    ((t.refresh probe s).1.1 = .ok () ∧ still (t.refresh probe s).2.1 ∧
      ∀ r, still r → ((t.refresh probe s).1.2.refresh probe r).1 = (t.refresh probe s).1) ∧
    ∀ timedToo,
      (t.update probe timedToo s).1.1 = .ok () ∧ still (t.update probe timedToo s).2.1 ∧
      ∀ r, still r →
        ((t.update probe timedToo s).1.2.update probe timedToo r).1 =
          (t.update probe timedToo s).1 := by
  obtain ⟨hok, hrefreshed⟩ := refresh_upToDate hview hpids howner h.ascending hs
  refine ⟨⟨hok, hview.passes.refresh t s hs, fun r hr => ?_⟩, fun timedToo => ?_⟩
  · rw [hrefreshed.refresh hview hpids howner hr]
    exact Prod.ext hok.symm rfl
  · obtain ⟨hok', hupdated⟩ := update_upToDate hview hpids howner h.ascending hs timedToo
    refine ⟨hok', hview.passes.update timedToo t s hs, fun r hr => ?_⟩
    have hagain := hupdated.refresh hview hpids howner hr
    rw [update_timed_again timedToo (Prod.ext hok rfl) hagain]
    exact Prod.ext hok'.symm rfl

/-- A pass that meets three shells. -/
def shellsPass : Pass Unit := ⟨.sample, filesOnly [7, 9, 11] fun _ => shellFile 100, ()⟩

/-- Of the three shells, one has given its number to another one, one cannot be read and one has
vanished. There is a new shell whose `io` is denied, and a zombie without `statm`. -/
def mixedTree (m : Type → Type) [Monad m] : Probe m :=
  filesOnly [3, 4, 7, 9, 11, 7] fun pid name =>
    match pid, name with
    | 3, "io" => .error (.described .permissionDenied name)
    | 4, "stat" => .ok "4 (sh) Z 1 4 4 0 -1 0 0 0 0 0 0 0 0 0 20 0 1 0 40 0 0"
    | 4, "statm" | 11, _ => .error (.described .notFound name)
    | 9, "stat" => .ok "no columns"
    | _, _ => shellFile 250 name

theorem mixedTree_shown :
    ShowsProcesses (mixedTree (Observing Unit)) (mixedTree Id) fun _ => True where
  listPids := Gives.pure _
  processFile := fun _ _ => Gives.pure _
  processOwner := fun _ => Gives.pure _
  clockTicks := Keeps.pure _
  pageSize := Keeps.pure _
  log := fun _ => Keeps.pure _

/-- The first refresh adds, replaces, keeps and removes processes; the second one does nothing. -/
theorem refresh_idempotent_mixed :
    let t := (shellsPass.run (new ⟨.ofSeconds 60, 2⟩)).2
    let tree := mixedTree (Observing Unit)
    let once := (t.refresh tree ()).1
    (∃ records, Run ⟨.ofSeconds 60, 2⟩ records t) ∧
    ShowsProcesses tree (mixedTree Id) (fun _ => True) ∧
    t.processes.map (fun p => (p.pid, p.startTicks)) = [(7, 100), (9, 100), (11, 100)] ∧
    once.2.processes.map (fun p => (p.pid, p.startTicks, p.accessViolation)) =
      [(3, 250, true), (4, 40, false), (7, 250, false), (9, 100, false)] ∧
    once.2.failing = true ∧ (once.2.refresh tree ()).1 = once := by
  intro t tree once
  have hrun : Run ⟨.ofSeconds 60, 2⟩ _ t := Run.new.pass shellsPass
  have howner : ∀ pid ∈ [3, 4, 7, 9, 11, 7], HasOwner (mixedTree Id) pid :=
    fun _ _ _ _ => ⟨(0, 0), rfl⟩
  obtain ⟨⟨-, -, hagain⟩, -⟩ := Run.refresh_idempotent hrun mixedTree_shown rfl howner
    (s := ()) trivial
  exact ⟨⟨_, hrun⟩, mixedTree_shown, by decide +kernel, by decide +kernel, by decide +kernel,
    hagain () trivial⟩

end ProcessTable

end SystemMetrics
