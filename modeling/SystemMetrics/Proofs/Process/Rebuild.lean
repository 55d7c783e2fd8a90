import SystemMetrics.Proofs.Process.Reading

/-!
# The table rebuilt from scratch

On a system that stands still, a table that has gone through any passes comes out of an update like
a new one: it holds the processes that are there, under the same numbers and with the same columns.
Keeping, replacing, removing and adding a process all lead to what its files say.
-/

namespace SystemMetrics

namespace ProcessEntry

variable {view : Probe Id} {p q r : ProcessEntry}

/-! ## What the files of a process say -/

/-- Two processes agree on what their files say. The memory of a zombie is not read. -/
structure Agrees (p q : ProcessEntry) : Prop where
  stat : p.stat = q.stat
  io : p.io = q.io
  accessViolation : p.accessViolation = q.accessViolation
  statm : p.stat.state ≠ 'Z' → p.statm = q.statm

theorem Agrees.symm (h : p.Agrees q) : q.Agrees p :=
  ⟨h.stat.symm, h.io.symm, h.accessViolation.symm, fun hz => (h.statm (h.stat ▸ hz)).symm⟩

theorem Agrees.trans (h : p.Agrees q) (h' : q.Agrees r) : p.Agrees r :=
  ⟨h.stat.trans h'.stat, h.io.trans h'.io, h.accessViolation.trans h'.accessViolation,
    fun hz => (h.statm hz).trans (h'.statm (h.stat ▸ hz))⟩

theorem io_read (view : Probe Id) (pid : Nat) (f g : Option Proc.Io × Bool → ProcessEntry) :
    (∃ e, (readIo view pid >>= fun read => pure (f read)).run = .error e ∧
      (readIo view pid >>= fun read => pure (g read)).run = .error e) ∨
    ∃ read, (readIo view pid >>= fun read => pure (f read)).run = .ok (f read) ∧
      (readIo view pid >>= fun read => pure (g read)).run = .ok (g read) := by
  cases h : (readIo view pid).run with
  | error e => exact Or.inl ⟨e, runBind_error _ h, runBind_error _ h⟩
  | ok read => exact Or.inr ⟨read, runBind_ok _ h, runBind_ok _ h⟩

/-- Readings of one process agree, whatever was known of it before and whether or not its owner is
read with it. -/
theorem reading_agrees (hpid : q.pid = p.pid) (howner : HasOwner view p.pid)
    (initial initial' : Bool) :
    (∃ e, reading view initial p = .error e ∧ reading view initial' q = .error e) ∨
      ∃ p' q', reading view initial p = .ok p' ∧ reading view initial' q = .ok q' ∧
        p'.pid = p.pid ∧ q'.pid = p.pid ∧ p'.Agrees q' := by
  unfold reading
  rw [observe_eq, observe_eq, hpid]
  cases hstat : (readStat view p.pid).run with
  | error e => exact Or.inl ⟨e, runBind_error _ hstat, runBind_error _ hstat⟩
  | ok stat =>
    obtain ⟨owner, ho⟩ := owner_read howner hstat initial
    obtain ⟨owner', ho'⟩ := owner_read (p := q) (hpid ▸ howner) (hpid ▸ hstat) initial'
    rw [hpid] at ho'
    rw [runBind_ok _ hstat, runBind_ok _ hstat, runBind_ok _ ho, runBind_ok _ ho']
    by_cases hz : stat.state = 'Z'
    · rw [if_pos hz, if_pos hz]
      rw [runBind_ok _ (rfl : (pure p.statm : ExceptT Interruption Id _).run = .ok p.statm),
        runBind_ok _ (rfl : (pure q.statm : ExceptT Interruption Id _).run = .ok q.statm)]
      rcases io_read view p.pid _ _ with ⟨e, h, h'⟩ | ⟨read, h, h'⟩
      · exact Or.inl ⟨e, h, h'⟩
      · exact Or.inr ⟨_, _, h, h', rfl, rfl, rfl, rfl, rfl, fun hz' => absurd hz hz'⟩
    · rw [if_neg hz, if_neg hz]
      cases hstatm : (readStatm view p.pid).run with
      | error e => exact Or.inl ⟨e, runBind_error _ hstatm, runBind_error _ hstatm⟩
      | ok statm =>
        rw [runBind_ok _ hstatm, runBind_ok _ hstatm]
        rcases io_read view p.pid _ _ with ⟨e, h, h'⟩ | ⟨read, h, h'⟩
        · exact Or.inl ⟨e, h, h'⟩
        · exact Or.inr ⟨_, _, h, h', rfl, rfl, rfl, rfl, rfl, fun _ => rfl⟩

/-- The initial refresh of a process of which nothing is known. -/
def initialRefresh (view : Probe Id) (pid : Nat) : Except Fault Bool × ProcessEntry :=
  (new view pid 0 0).refresh view true

end ProcessEntry

namespace ProcessTable

open ProcessEntry

variable {view : Probe Id} {t : ProcessTable} {pid : Nat}

/-! ## One number -/

/-- What is found under a number is what an initial refresh finds there. -/
def Shown (view : Probe Id) (pid : Nat) (found : Option ProcessEntry) : Prop :=
  ((initialRefresh view pid).1 = .ok false ∧ found = none) ∨
    (initialRefresh view pid).1 = .ok true ∧
      ∃ p, found = some p ∧ p.Agrees (initialRefresh view pid).2

theorem Shown.found {found : Option ProcessEntry} (h : Shown view pid found)
    (hthere : (initialRefresh view pid).1 = .ok true) :
    ∃ p, found = some p ∧ p.Agrees (initialRefresh view pid).2 := by
  rcases h with ⟨hgone, _⟩ | ⟨_, h⟩
  · cases hgone.symm.trans hthere
  · exact h

/-- On a view without errors, any refresh of a process comes to what an initial one comes to. -/
theorem commit_reading {p : ProcessEntry} (hpid : p.pid = pid) (howner : HasOwner view pid)
    (hok : ∀ fault, (initialRefresh view pid).1 ≠ .error fault) (initial : Bool) :
    ((initialRefresh view pid).1 = .ok false ∧
      p.commit (reading view initial p) = (.ok false, p)) ∨
    (initialRefresh view pid).1 = .ok true ∧
      ∃ q, p.commit (reading view initial p) = (.ok true, q) ∧
        q.pid = pid ∧ q.Agrees (initialRefresh view pid).2 := by
  subst hpid
  have hinitial := refresh_view view true (ProcessEntry.new view p.pid 0 0)
  rw [← initialRefresh] at hinitial
  rw [hinitial] at hok ⊢
  have hnew : (ProcessEntry.new view p.pid 0 0 : ProcessEntry).pid = p.pid := rfl
  rcases reading_agrees hnew howner initial true with
    ⟨e, h, h'⟩ | ⟨q, q', h, h', hq, -, hagrees⟩
  · rw [h'] at hok ⊢
    rw [h]
    cases e with
    | gone => exact Or.inl ⟨rfl, rfl⟩
    | fault f => exact absurd rfl (hok f)
  · rw [h, h']
    exact Or.inr ⟨rfl, q, rfl, hq, hagrees⟩

variable {σ : Type} {probe : Probe (Observing σ)} {still : σ → Prop} {s : σ}

theorem readAfresh_shown (hview : ShowsProcesses probe view still) (howner : HasOwner view pid)
    (hok : ∀ fault, (initialRefresh view pid).1 ≠ .error fault) (t : ProcessTable) (hs : still s) :
    Shown view pid (readAfresh probe t pid s).1.process? := by
  have hnew := hview.new pid t.bootTime t.cadence.history s hs
  have hrefresh := (hview.refresh true
    (ProcessEntry.new probe pid t.bootTime t.cadence.history s).1 _ hnew).1
  rw [refresh_view] at hrefresh
  simp only [readAfresh, Observing.bind_run]
  rcases commit_reading (new_pid probe pid t.bootTime t.cadence.history s) howner hok true with
    ⟨hgone, h⟩ | ⟨hthere, q, h, -, hagrees⟩
  · rw [h] at hrefresh
    rw [hrefresh]
    exact Or.inl ⟨hgone, rfl⟩
  · rw [h] at hrefresh
    rw [hrefresh]
    exact Or.inr ⟨hthere, q, rfl, hagrees⟩

/-- On a view without errors, adding, keeping, replacing and removing a process all lead to what an
initial refresh finds. -/
theorem settle_shown (hview : ShowsProcesses probe view still) (howner : HasOwner view pid)
    (hok : ∀ fault, (initialRefresh view pid).1 ≠ .error fault) (t : ProcessTable)
    {known : Option ProcessEntry} (hknown : ∀ p, known = some p → p.pid = pid) (hs : still s) :
    Shown view pid (settle probe t pid known s).1.process? := by
  cases known with
  | none => exact readAfresh_shown hview howner hok t hs
  | some p =>
    obtain rfl := hknown p rfl
    obtain ⟨hrefresh, hstill⟩ := hview.refresh false p s hs
    rw [refresh_view] at hrefresh
    have hafresh := readAfresh_shown hview howner hok t hstill
    simp only [settle, refreshKnown, Observing.bind_run]
    rcases commit_reading rfl howner hok false with ⟨hgone, h⟩ | ⟨hthere, q, h, -, hagrees⟩
    · rw [h] at hrefresh
      rw [hrefresh]
      exact Or.inl ⟨hgone, rfl⟩
    · rw [h] at hrefresh
      rw [hrefresh]
      by_cases hstart : q.startTicks = p.startTicks
      · simp only [if_pos hstart]
        exact Or.inr ⟨hthere, q, rfl, hagrees⟩
      · simp only [if_neg hstart]
        exact hafresh

/-! ## All numbers -/

variable {pids : List Nat}

/-- A view that lists `pids`, all of them with an owner where they can be read, and none of which
fails its initial refresh. -/
structure Clean (view : Probe Id) (pids : List Nat) : Prop where
  listed : view.listPids = .ok pids
  hasOwner : ∀ pid ∈ pids, HasOwner view pid
  refreshes : ∀ pid ∈ pids, ∀ fault, (initialRefresh view pid).1 ≠ .error fault

theorem visits_shown (hview : ShowsProcesses probe view still) (t : ProcessTable) (loud : Bool)
    (howner : ∀ pid ∈ pids, HasOwner view pid)
    (hok : ∀ pid ∈ pids, ∀ fault, (initialRefresh view pid).1 ≠ .error fault)
    (progress : Progress) (hs : still s) (hpid : pid ∈ pids) :
    Shown view pid (lookup pid (pids.foldlM (visit probe t loud) progress s).1.processes) := by
  induction pids generalizing progress s with
  | nil => cases hpid
  | cons other rest ih =>
    rw [List.foldlM_cons, Observing.bind_run]
    by_cases hrest : pid ∈ rest
    · exact ih (fun n hn => howner n (List.mem_cons_of_mem _ hn))
        (fun n hn => hok n (List.mem_cons_of_mem _ hn)) _
        (hview.visit t loud progress other s hs) hrest
    · obtain rfl : pid = other := (List.mem_cons.mp hpid).resolve_right hrest
      rw [lookup_visits_of_notMem probe t loud hrest, lookup_visit, if_pos rfl]
      exact settle_shown hview (howner pid hpid) (hok pid hpid) t (fun p hp => pid_of_lookup hp) hs

theorem Effect.apply_agrees (e : Effect) (p : ProcessEntry) : (e.apply p).Agrees p := by
  cases e <;> exact ⟨rfl, rfl, rfl, fun _ => rfl⟩

theorem Shown.map {found : Option ProcessEntry} (h : Shown view pid found) (e : Effect) :
    Shown view pid (found.map e.apply) := by
  rcases h with ⟨hgone, rfl⟩ | ⟨hthere, p, rfl, hagrees⟩
  · exact Or.inl ⟨hgone, rfl⟩
  · exact Or.inr ⟨hthere, e.apply p, rfl, (e.apply_agrees p).trans hagrees⟩

theorem update_shown (hview : ShowsProcesses probe view still) (hclean : Clean view pids)
    (hs : still s) (t : ProcessTable) (timedToo : Bool) :
    (t.update probe timedToo s).1.1 = .ok () ∧
      ∀ pid, if pid ∈ pids then Shown view pid ((t.update probe timedToo s).1.2.find? pid)
        else (t.update probe timedToo s).1.2.find? pid = none := by
  obtain ⟨hanswer, hstill⟩ := hview.listPids s hs
  have hrefresh := refresh_listed (t := t) (hanswer.trans hclean.listed)
  have hrun : ((⟨.update timedToo, probe, s⟩ : Pass σ).run t) = (t.update probe timedToo s).1 := rfl
  rw [← hrun]
  constructor
  · rw [Pass.run_eq]
    show (t.refresh probe s).1.1 = .ok ()
    rw [hrefresh]
  · intro pid
    rw [Pass.find?_run]
    show if pid ∈ pids then Shown view pid (((t.refresh probe s).1.2.find? pid).map _)
      else ((t.refresh probe s).1.2.find? pid).map _ = none
    rw [hrefresh]
    split
    · rename_i hmem
      exact (visits_shown hview t _ hclean.hasOwner hclean.refreshes _ hstill hmem).map _
    · rename_i hmem
      show (lookup pid (refreshProgress probe t pids _).processes).map _ = none
      rw [refreshProgress, lookup_visits_of_notMem probe t _ hmem, lookup_listed, if_neg hmem]
      rfl

/-- An incremental update agrees with a rebuild. Whatever passes a table has gone through, an update
on a clean view that stands still succeeds and leaves, in ascending order and under their own
numbers, exactly the listed processes whose initial refresh finds them; each of them agrees with the
process that a new table has under its number after one update. -/
theorem Run.update_agrees_rebuilt {cadence : Cadence} {records : List Record}
    (h : Run cadence records t) (hview : ShowsProcesses probe view still)
    (hclean : Clean view pids) {r : σ} (hs : still s) (hr : still r)
    (timedToo timedToo' : Bool) :
    let updated := (t.update probe timedToo s).1
    let rebuilt := ((ProcessTable.new cadence).update probe timedToo' r).1.2
    updated.1 = .ok () ∧
    Ascending updated.2.processes ∧
    (∀ pid, (∃ p ∈ updated.2.processes, p.pid = pid) ↔
      pid ∈ pids ∧ (initialRefresh view pid).1 = .ok true) ∧
    ∀ p ∈ updated.2.processes, updated.2.find? p.pid = some p ∧
      ∃ q, rebuilt.find? p.pid = some q ∧ p.Agrees q := by
  intro updated rebuilt
  obtain ⟨hok, hupdated⟩ := update_shown hview hclean hs t timedToo
  have hrebuilt := (update_shown hview hclean hr (ProcessTable.new cadence) timedToo').2
  have hascending : Ascending updated.2.processes :=
    Pass.run_ascending ⟨.update timedToo, probe, s⟩ h.ascending
  have hthere : ∀ p ∈ updated.2.processes, p.pid ∈ pids ∧
      (initialRefresh view p.pid).1 = .ok true ∧ p.Agrees (initialRefresh view p.pid).2 := by
    intro p hp
    have hfound : updated.2.find? p.pid = some p := hascending.lookup_of_mem hp
    have hshown := hupdated p.pid
    by_cases hmem : p.pid ∈ pids
    · rw [if_pos hmem, hfound] at hshown
      rcases hshown with ⟨_, hnone⟩ | ⟨hthere, q, hq, hagrees⟩
      · cases hnone
      · cases hq
        exact ⟨hmem, hthere, hagrees⟩
    · rw [if_neg hmem, hfound] at hshown
      cases hshown
  refine ⟨hok, hascending, fun pid => ⟨?_, ?_⟩, fun p hp => ⟨hascending.lookup_of_mem hp, ?_⟩⟩
  · rintro ⟨p, hp, rfl⟩
    exact ⟨(hthere p hp).1, (hthere p hp).2.1⟩
  · rintro ⟨hmem, hinitial⟩
    have hshown := hupdated pid
    rw [if_pos hmem] at hshown
    obtain ⟨p, hfound, _⟩ := hshown.found hinitial
    exact ⟨p, mem_of_lookup hfound, pid_of_lookup hfound⟩
  · obtain ⟨hmem, hinitial, hagrees⟩ := hthere p hp
    have hshown := hrebuilt p.pid
    rw [if_pos hmem] at hshown
    obtain ⟨q, hfound, hagrees'⟩ := hshown.found hinitial
    exact ⟨q, hfound, hagrees.trans hagrees'.symm⟩

/-- A tree that lists a shell and a process that has vanished. -/
def vanishingTree (m : Type → Type) [Monad m] : Probe m :=
  filesOnly [9, 7] fun pid name =>
    if pid = 7 then shellFile 250 name else .error (.described .notFound name)

theorem vanishingTree_shown :
    ShowsProcesses (vanishingTree (Observing Unit)) (vanishingTree Id) fun _ => True where
  listPids := Gives.pure _
  processFile := fun _ _ => Gives.pure _
  processOwner := fun _ => Gives.pure _
  clockTicks := Keeps.pure _
  pageSize := Keeps.pure _
  log := fun _ => Keeps.pure _

theorem vanishingTree_clean : Clean (vanishingTree Id) [9, 7] where
  listed := rfl
  hasOwner := fun _ _ _ _ => ⟨(0, 0), rfl⟩
  refreshes := by
    have hgone : (initialRefresh (vanishingTree Id) 9).1 = .ok false := rfl
    have hthere : (initialRefresh (vanishingTree Id) 7).1 = .ok true := rfl
    simp [hgone, hthere]

/-- A table that knows a shell under the number 7 finds the one that has taken its place, like a new
table. -/
theorem update_agrees_rebuilt_shells :
    let tree := vanishingTree (Observing Unit)
    let updated := (sampledTwice.update tree true ()).1
    let rebuilt := ((ProcessTable.new ⟨.ofSeconds 60, 2⟩).update tree false ()).1.2
    (∃ records, Run ⟨.ofSeconds 60, 2⟩ records sampledTwice) ∧
    Clean (vanishingTree Id) [9, 7] ∧
    ShowsProcesses tree (vanishingTree Id) (fun _ => True) ∧
    updated.2.processes.map (fun p => (p.pid, p.startTicks)) = [(7, 250)] ∧
    ∀ p ∈ updated.2.processes, ∃ q, rebuilt.find? p.pid = some q ∧ p.Agrees q := by
  have hrun : Run ⟨.ofSeconds 60, 2⟩ _ sampledTwice :=
    (Run.new.pass (shellPass 100)).pass (shellPass 100)
  obtain ⟨_, _, _, hagrees⟩ := Run.update_agrees_rebuilt hrun vanishingTree_shown
    vanishingTree_clean (s := ()) (r := ()) trivial trivial true false
  exact ⟨⟨_, hrun⟩, vanishingTree_clean, vanishingTree_shown, by decide +kernel,
    fun p hp => (hagrees p hp).2⟩

end ProcessTable

end SystemMetrics
