import SystemMetrics.Proofs.Process.Reading

/-!
# Processes do not meddle with each other

Two passes over two tables, each of which meets a system of its own, leave the same process under a
number that both tables hold alike, as long as the two systems answer alike about that number. What
they answer about other numbers, and how these fare, makes no difference. The two passes are not in
step: each of them handles the other numbers alone, and they meet where they settle this one.
-/

namespace SystemMetrics

namespace ProcessTable

open ProcessEntry

variable {view : Probe Id} {t u : ProcessTable} {pid : Nat}

theorem readAfresh_view (view : Probe Id) (t : ProcessTable) (pid : Nat) :
    (readAfresh view t pid).process? =
      (reading view true (ProcessEntry.new view pid t.bootTime t.cadence.history)).toOption := by
  have h := refresh_view view true (ProcessEntry.new view pid t.bootTime t.cadence.history)
  show Settled.process? (match ProcessEntry.refresh view true
    (ProcessEntry.new view pid t.bootTime t.cadence.history) with
    | (.ok true, p) => { process? := some p }
    | (.ok false, _) => {}
    | (.error fault, _) => { fault? := some fault }) = _
  rw [h]
  match reading view true (ProcessEntry.new view pid t.bootTime t.cadence.history) with
  | .ok _ | .error .gone | .error (.fault _) => rfl

theorem refreshKnown_view (view : Probe Id) (t : ProcessTable) (p : ProcessEntry) :
    (refreshKnown view t p).process? = match reading view false p with
      | .ok q =>
        if q.startTicks = p.startTicks then some q else (readAfresh view t p.pid).process?
      | .error .gone => none
      | .error (.fault _) => some p := by
  have h := refresh_view view false p
  show Settled.process? (match p.refresh view false with
    | (.ok true, q) =>
      if q.startTicks = p.startTicks then { process? := some q } else readAfresh view t p.pid
    | (.ok false, _) => {}
    | (.error fault, _) => { process? := some p, fault? := some fault }) = _
  rw [h]
  match reading view false p with
  | .error .gone | .error (.fault _) => rfl
  | .ok q =>
    by_cases hstart : q.startTicks = p.startTicks
    · simp only [commit, if_pos hstart]
    · simp only [commit, if_neg hstart]

/-- Settling a number again, on a view, changes nothing. -/
theorem settle_again (view : Probe Id) (t : ProcessTable) {known : Option ProcessEntry}
    (hknown : ∀ p, known = some p → p.pid = pid) :
    (settle view t pid (settle view t pid known).process?).process? =
      (settle view t pid known).process? := by
  have hread {q : ProcessEntry} (h : reading view false q = .ok q) :
      (settle view t pid (some q)).process? = some q := by
    show (refreshKnown view t q).process? = some q
    rw [refreshKnown_view, h]
    exact if_pos rfl
  have hafresh : (settle view t pid (readAfresh view t pid).process?).process? =
      (readAfresh view t pid).process? := by
    cases hfresh : (readAfresh view t pid).process? with
    | none => exact hfresh
    | some q =>
      rw [readAfresh_view] at hfresh
      cases hr : reading view true (.new view pid t.bootTime t.cadence.history) with
      | error e => rw [hr] at hfresh; cases hfresh
      | ok r => rw [hr] at hfresh; cases hfresh; exact hread (reading_again hr)
  cases known with
  | none => exact hafresh
  | some p =>
    obtain rfl := hknown p rfl
    have hp := refreshKnown_view view t p
    show (settle view t p.pid (refreshKnown view t p).process?).process? =
      (refreshKnown view t p).process?
    cases h : reading view false p with
    | ok q =>
      rw [h] at hp
      dsimp only at hp
      by_cases hstart : q.startTicks = p.startTicks
      · rw [hp, if_pos hstart]
        exact hread (reading_again h)
      · rw [hp, if_neg hstart]
        exact hafresh
    | error e =>
      rw [h] at hp
      cases e with
      | fault f => rw [hp]; exact hp
      | gone =>
        -- A process that is gone is not there for a first reading either.
        rw [hp]
        show (readAfresh view t p.pid).process? = none
        rw [readAfresh_view]
        cases hr : reading view true (.new view p.pid t.bootTime t.cadence.history) with
        | error e => rfl
        | ok r =>
          obtain ⟨r', hr'⟩ := reading_of_initial (q := p) (by rfl) hr
          cases h.symm.trans hr'

/-! ## Systems that answer alike about one number -/

section Systems

variable {σ τ α : Type} {R : σ → τ → Prop} {still : σ → Prop} {probe : Probe (Observing σ)}
  {probe' : Probe (Observing τ)} {a : σ} {b : τ}

/-- Settling other numbers, and what a pass logs, leaves the system standing still. -/
structure KeepsBut (still : σ → Prop) (probe : Probe (Observing σ)) (pid : Nat) : Prop where
  others : ∀ other ≠ pid, (Keeps.lockstep still).Settles probe probe other
  log : ∀ e : Event, e.ofPass = true → Keeps still (probe.log e)

/-- Two related systems answer alike to what is asked about one number and stay related. They also
stay related if one of them alone is asked about another number. -/
structure AlikeAbout (pid : Nat) (R : σ → τ → Prop) (probe : Probe (Observing σ))
    (probe' : Probe (Observing τ)) : Prop where
  settles : (Alike.lockstep R).Settles probe probe' pid
  left : ∀ b, KeepsBut (R · b) probe pid
  right : ∀ a, KeepsBut (R a ·) probe' pid

/-- Two related systems stay related if one of them alone is asked about this number. So what they
answer about it does not change. -/
structure Fixed (pid : Nat) (R : σ → τ → Prop) (probe : Probe (Observing σ))
    (probe' : Probe (Observing τ)) : Prop where
  left : ∀ b, (Keeps.lockstep (R · b)).Settles probe probe pid
  right : ∀ a, (Keeps.lockstep (R a ·)).Settles probe' probe' pid

/-! ## Numbers that are listed equally often -/

theorem KeepsBut.visits (h : KeepsBut still probe pid) (t : ProcessTable) (loud : Bool)
    {pids : List Nat} (hpid : pid ∉ pids) (progress : Progress) :
    Keeps still (pids.foldlM (visit probe t loud) progress) :=
  (Keeps.lockstep still).foldlM (g := visit probe t loud) (fun progress other hother =>
    (h.others other fun heq => hpid (heq ▸ hother)).visit h.log t loud progress) progress

theorem KeepsBut.logs (h : KeepsBut still probe pid) {events : List Event}
    (hevents : ∀ e ∈ events, e.ofPass = true) : Keeps still (events.forM probe.log) :=
  (Keeps.lockstep still).forM (g := probe.log) fun e he => h.log e (hevents e he)

namespace AlikeAbout

theorem visits_others (h : AlikeAbout pid R probe probe') (loud loud' : Bool)
    {pids pids' : List Nat} (hpid : pid ∉ pids) (hpid' : pid ∉ pids')
    {progress progress' : Progress}
    (hknown : lookup pid progress.processes = lookup pid progress'.processes) (hab : R a b) :
    lookup pid (pids.foldlM (visit probe t loud) progress a).1.processes =
        lookup pid (pids'.foldlM (visit probe' u loud') progress' b).1.processes ∧
      R (pids.foldlM (visit probe t loud) progress a).2.1
        (pids'.foldlM (visit probe' u loud') progress' b).2.1 := by
  constructor
  · rw [lookup_visits_of_notMem probe t loud hpid, lookup_visits_of_notMem probe' u loud' hpid',
      hknown]
  · have hleft := (h.left b).visits t loud hpid progress a hab
    exact (h.right _).visits u loud' hpid' progress' b hleft

theorem visit_same (h : AlikeAbout pid R probe probe') (hboot : t.bootTime = u.bootTime)
    (hhistory : t.cadence.history = u.cadence.history) (loud loud' : Bool)
    {progress progress' : Progress}
    (hknown : lookup pid progress.processes = lookup pid progress'.processes) (hab : R a b) :
    lookup pid (visit probe t loud progress pid a).1.processes =
        lookup pid (visit probe' u loud' progress' pid b).1.processes ∧
      R (visit probe t loud progress pid a).2.1
        (visit probe' u loud' progress' pid b).2.1 := by
  obtain ⟨hsettled, hnext⟩ :=
    h.settles.settle hboot hhistory (fun p hp => pid_of_lookup hp) a b hab
  constructor
  · rw [lookup_visit, lookup_visit, if_pos rfl, if_pos rfl, ← hknown, hsettled]
  · rw [visit, visit, ← hknown]
    exact (h.right _).logs ofPass_settled _ ((h.left _).logs ofPass_settled _ hnext)

theorem visits_evenly (h : AlikeAbout pid R probe probe') (hboot : t.bootTime = u.bootTime)
    (hhistory : t.cadence.history = u.cadence.history) (loud loud' : Bool)
    {pids pids' : List Nat} (hcount : pids.count pid = pids'.count pid)
    {progress progress' : Progress}
    (hknown : lookup pid progress.processes = lookup pid progress'.processes) (hab : R a b) :
    lookup pid (pids.foldlM (visit probe t loud) progress a).1.processes =
      lookup pid (pids'.foldlM (visit probe' u loud') progress' b).1.processes := by
  -- Induction on how often the number is listed. Before its first place there are only others.
  generalize hn : pids.count pid = n at hcount
  induction n generalizing pids pids' progress progress' a b with
  | zero =>
    exact (h.visits_others loud loud' (List.count_eq_zero.mp hn)
      (List.count_eq_zero.mp hcount.symm) hknown hab).1
  | succ n ih =>
    have hmem : pid ∈ pids := List.count_pos_iff.mp (by omega)
    have hmem' : pid ∈ pids' := List.count_pos_iff.mp (by omega)
    obtain ⟨before, after, rfl, hbefore⟩ := List.eq_append_cons_of_mem hmem
    obtain ⟨before', after', rfl, hbefore'⟩ := List.eq_append_cons_of_mem hmem'
    rw [List.count_append, List.count_cons_self, List.count_eq_zero.mpr hbefore] at hn
    rw [List.count_append, List.count_cons_self, List.count_eq_zero.mpr hbefore'] at hcount
    rw [List.foldlM_append, List.foldlM_append, Observing.bind_run, Observing.bind_run,
      List.foldlM_cons, List.foldlM_cons, Observing.bind_run, Observing.bind_run]
    obtain ⟨hfound, hnext⟩ :=
      h.visits_others (t := t) (u := u) loud loud' hbefore hbefore' hknown hab
    obtain ⟨hfound, hnext⟩ := h.visit_same hboot hhistory loud loud' hfound hnext
    exact ih hfound hnext (by omega) (by omega)

end AlikeAbout

/-! ## Numbers whose answers do not change -/

/-- What a system answers about processes in one state. -/
def answers (probe : Probe (Observing σ)) (s : σ) : Probe Id :=
  { filesOnly [] fun pid name => (probe.processFile pid name s).1 with
    processOwner := fun pid => (probe.processOwner pid s).1
    clockTicks := (probe.clockTicks s).1
    pageSize := (probe.pageSize s).1 }

/-- However often a number is visited, it is settled as on the view: the first visit settles it, and
the others find it settled. -/
theorem visits_settled (h : (Gives.lockstep still).Settles probe view pid)
    (hothers : KeepsBut still probe pid) (t : ProcessTable) (loud : Bool) {pids : List Nat}
    (hpid : pid ∈ pids) (progress : Progress) {s : σ} (hs : still s) :
    lookup pid (pids.foldlM (visit probe t loud) progress s).1.processes =
      (settle view t pid (lookup pid progress.processes)).process? := by
  have hpass (other : Nat) : (Keeps.lockstep still).Settles probe probe other := by
    by_cases hother : other = pid
    · subst hother
      exact ⟨⟨fun name => (h.processFile name).keeps, h.processOwner.keeps⟩, h.clockTicks.keeps,
        h.pageSize.keeps⟩
    · exact hothers.others other hother
  induction pids generalizing progress s with
  | nil => cases hpid
  | cons other rest ih =>
    rw [List.foldlM_cons, Observing.bind_run]
    have hstill := (hpass other).visit hothers.log t loud progress s hs
    by_cases hother : pid = other
    · subst hother
      have hknown (p : ProcessEntry) (hp : lookup pid progress.processes = some p) : p.pid = pid :=
        pid_of_lookup hp
      have hsettled := (h.settle (t := t) rfl rfl hknown s hs).1
      have hvisited : lookup pid (visit probe t loud progress pid s).1.processes =
          (settle view t pid (lookup pid progress.processes)).process? := by
        rw [lookup_visit, if_pos rfl, hsettled]
      by_cases hrest : pid ∈ rest
      · rw [ih hrest _ hstill, hvisited]
        exact settle_again view t hknown
      · rw [lookup_visits_of_notMem probe t loud hrest, hvisited]
    · rw [ih ((List.mem_cons.mp hpid).resolve_left hother) _ hstill, lookup_visit, if_neg hother]

/-- Of two related systems, each gives the answers that the second one gives in its present
state. -/
theorem Fixed.settles (hfixed : Fixed pid R probe probe') (h : AlikeAbout pid R probe probe')
    (hab : R a b) :
    (Gives.lockstep (R · b)).Settles probe (answers probe' b) pid ∧
      (Gives.lockstep (R a ·)).Settles probe' (answers probe' b) pid := by
  have hleft {α : Type} {x : Observing σ α} {y : Observing τ α} (h : Alike R x y)
      (hx : Keeps (R · b) x) : Gives (R · b) x (y b).1 :=
    fun a' hab' => ⟨(h a' b hab').1, hx a' hab'⟩
  have hright {α : Type} {x : Observing σ α} {y : Observing τ α} (h : Alike R x y)
      (hy : Keeps (R a ·) y) : Gives (R a ·) y (y b).1 :=
    fun b' hab' => ⟨(h a b' hab').1.symm.trans (h a b hab).1, hy b' hab'⟩
  exact
    ⟨⟨⟨fun name => hleft (h.settles.processFile name) ((hfixed.left b).processFile name),
        hleft h.settles.processOwner (hfixed.left b).processOwner⟩,
      hleft h.settles.clockTicks (hfixed.left b).clockTicks,
      hleft h.settles.pageSize (hfixed.left b).pageSize⟩,
    ⟨⟨fun name => hright (h.settles.processFile name) ((hfixed.right a).processFile name),
        hright h.settles.processOwner (hfixed.right a).processOwner⟩,
      hright h.settles.clockTicks (hfixed.right a).clockTicks,
      hright h.settles.pageSize (hfixed.right a).pageSize⟩⟩

theorem settle_view (view : Probe Id) (hboot : t.bootTime = u.bootTime)
    (hhistory : t.cadence.history = u.cadence.history) {known : Option ProcessEntry}
    (hknown : ∀ p, known = some p → p.pid = pid) :
    settle view t pid known = settle view u pid known :=
  Lockstep.Settles.settle (L := Lockstep.same Id) ⟨⟨fun _ => rfl, rfl⟩, rfl, rfl⟩
    hboot hhistory hknown

/-! ## Passes -/

theorem AlikeAbout.refresh (h : AlikeAbout pid R probe probe') {pids pids' : List Nat}
    (hlist : (probe.listPids a).1 = .ok pids) (hlist' : (probe'.listPids b).1 = .ok pids')
    (hrelated : R (probe.listPids a).2.1 (probe'.listPids b).2.1)
    (hlisted : pid ∈ pids ↔ pid ∈ pids')
    (hevenly : pids.count pid = pids'.count pid ∨ Fixed pid R probe probe')
    (hboot : t.bootTime = u.bootTime) (hhistory : t.cadence.history = u.cadence.history)
    (hfind : t.find? pid = u.find? pid) :
    (t.refresh probe a).1.2.find? pid = (u.refresh probe' b).1.2.find? pid := by
  have hknown : lookup pid (t.processes.filter fun p => pids.contains p.pid) =
      lookup pid (u.processes.filter fun p => pids'.contains p.pid) := by
    rw [lookup_listed, lookup_listed]
    simp only [hlisted]
    rw [show lookup pid t.processes = lookup pid u.processes from hfind]
  rw [refresh_listed hlist, refresh_listed hlist']
  show lookup pid (refreshProgress probe t pids _).processes =
    lookup pid (refreshProgress probe' u pids' _).processes
  rcases hevenly with hcount | hfixed
  · exact h.visits_evenly hboot hhistory _ _ hcount hknown hrelated
  · by_cases hmem : pid ∈ pids
    · obtain ⟨hleft, hright⟩ := hfixed.settles h hrelated
      rw [refreshProgress, refreshProgress, visits_settled hleft (h.left _) t _ hmem _ hrelated,
        visits_settled hright (h.right _) u _ (hlisted.mp hmem) _ hrelated, ← hknown,
        settle_view _ hboot hhistory fun p hp => pid_of_lookup hp]
    · have hmem' : pid ∉ pids' := fun h => hmem (hlisted.mpr h)
      exact h.visits_evenly hboot hhistory _ _
        ((List.count_eq_zero.mpr hmem).trans (List.count_eq_zero.mpr hmem').symm) hknown hrelated

/-- The monotonic clock as a sampling pass reads it. -/
def sampleTime (probe : Probe (Observing σ)) (t : ProcessTable) (s : σ) : Nat :=
  (probe.monotonicClock (t.refresh probe s).2.1).1

theorem sampleAt_of_refresh {s : σ} {refreshed : ProcessTable}
    (h : (t.refresh probe s).1 = (.ok (), refreshed)) (now : Timestamp) :
    (t.sampleAt probe now s).1 = (.ok (), { refreshed with
      processes := refreshed.processes.map (ProcessEntry.sample now (sampleTime probe t s)) }) := by
  simp only [sampleAt, Observing.bind_run, h]
  rfl

/-- What becomes of one number is up to that number. Two tables hold the same process under a
number, or none, and have the same time of boot and the same length of the histories; the two
systems that they meet list their processes, this number both or neither of them, and answer alike
about it. A listing may name it more than once; then both do so equally often, or their answers
about it stay the same. After an update both tables hold the same process under the number, whatever
happens to the others, and a sampling pass at one time of the wall clock adds to the same process
what the monotonic clock then says. -/
theorem neighbours_irrelevant (h : AlikeAbout pid R probe probe') {pids pids' : List Nat}
    (hlist : (probe.listPids a).1 = .ok pids) (hlist' : (probe'.listPids b).1 = .ok pids')
    (hrelated : R (probe.listPids a).2.1 (probe'.listPids b).2.1)
    (hlisted : pid ∈ pids ↔ pid ∈ pids')
    (hevenly : pids.count pid = pids'.count pid ∨ Fixed pid R probe probe')
    (hboot : t.bootTime = u.bootTime) (hhistory : t.cadence.history = u.cadence.history)
    (hfind : t.find? pid = u.find? pid) :
    (∀ timedToo,
      (t.update probe timedToo a).1.1 = .ok () ∧ (u.update probe' timedToo b).1.1 = .ok () ∧
      (t.update probe timedToo a).1.2.find? pid = (u.update probe' timedToo b).1.2.find? pid) ∧
    ∀ now, (t.sampleAt probe now a).1.1 = .ok () ∧ (u.sampleAt probe' now b).1.1 = .ok () ∧
      (∃ found : Option ProcessEntry,
        (t.sampleAt probe now a).1.2.find? pid =
          found.map (ProcessEntry.sample now (sampleTime probe t a)) ∧
        (u.sampleAt probe' now b).1.2.find? pid =
          found.map (ProcessEntry.sample now (sampleTime probe' u b))) ∧
      (sampleTime probe t a = sampleTime probe' u b →
        (t.sampleAt probe now a).1.2.find? pid = (u.sampleAt probe' now b).1.2.find? pid) := by
  have hfound := h.refresh hlist hlist' hrelated hlisted hevenly hboot hhistory hfind
  obtain ⟨left, hleft⟩ : ∃ left, (t.refresh probe a).1 = (.ok (), left) :=
    ⟨_, refresh_listed hlist⟩
  obtain ⟨right, hright⟩ : ∃ right, (u.refresh probe' b).1 = (.ok (), right) :=
    ⟨_, refresh_listed hlist'⟩
  replace hfound : lookup pid left.processes = lookup pid right.processes := by
    rw [hleft, hright] at hfound
    exact hfound
  refine ⟨fun timedToo => ?_, fun now => ?_⟩
  · rw [update_of_refresh hleft, update_of_refresh hright]
    refine ⟨rfl, rfl, ?_⟩
    cases timedToo with
    | false => exact hfound
    | true =>
      show lookup pid (left.processes.map updateTimed) =
        lookup pid (right.processes.map updateTimed)
      rw [lookup_map pid (f := updateTimed) fun _ => rfl,
        lookup_map pid (f := updateTimed) fun _ => rfl, hfound]
  · rw [sampleAt_of_refresh hleft, sampleAt_of_refresh hright]
    have hsampled (takenAt : Nat) (ps : List ProcessEntry) :
        lookup pid (ps.map (ProcessEntry.sample now takenAt)) =
          (lookup pid ps).map (ProcessEntry.sample now takenAt) :=
      lookup_map pid (f := ProcessEntry.sample now takenAt) (fun _ => rfl) ps
    refine ⟨rfl, rfl, ⟨lookup pid left.processes, hsampled _ _, ?_⟩, fun htime => ?_⟩
    · rw [hfound]
      exact hsampled _ _
    · refine (hsampled _ _).trans ?_
      rw [htime, hfound]
      exact (hsampled _ _).symm

end Systems

/-- A tree with a shell and, beside it, a process with the file `stat` that is given. -/
def besideShell (start : Nat) (beside : String) : Probe (Observing Unit) :=
  filesOnly [7, 9] fun pid name =>
    if pid = 9 && name = "stat" then .ok beside else shellFile start name

/-- A table that holds a second process beside the shell. -/
def crowded : ProcessTable :=
  let pass (s : String) : Pass Unit := ⟨.sample, besideShell 100 s, ()⟩
  let stat := "9 (sh) R 1 9 9 0 -1 0 0 0 0 0 0 0 0 0 20 0 1 0 40 0 0"
  ((pass stat).run ((pass stat).run (new ⟨.ofSeconds 60, 2⟩)).2).2

theorem besideShell_alike (start : Nat) (beside : String) :
    AlikeAbout 7 (fun _ _ : Unit => True) (filesOnly [7] fun _ => shellFile start)
      (besideShell start beside) where
  settles := by
    refine ⟨⟨fun name => ?_, ?_⟩, ?_, ?_⟩ <;> exact fun _ _ _ => ⟨rfl, trivial⟩
  left _ := by
    refine ⟨fun _ _ => ⟨⟨fun _ => ?_, ?_⟩, ?_, ?_⟩, fun _ _ => ?_⟩ <;> exact fun _ _ => trivial
  right _ := by
    refine ⟨fun _ _ => ⟨⟨fun _ => ?_, ?_⟩, ?_, ?_⟩, fun _ _ => ?_⟩ <;> exact fun _ _ => trivial

/-- Another shell takes the place of the first one in both tables alike, though only one of them
holds a second process, and that process cannot be read any more. -/
theorem neighbours_irrelevant_shells :
    let alone : Probe (Observing Unit) := filesOnly [7] fun _ => shellFile 250
    let beside := besideShell 250 "no columns"
    (∃ records, Run ⟨.ofSeconds 60, 2⟩ records sampledTwice) ∧
    (∃ records, Run ⟨.ofSeconds 60, 2⟩ records crowded) ∧
    sampledTwice.find? 9 = none ∧ (crowded.find? 9).isSome = true ∧
    (crowded.update beside true ()).1.2.failing = true ∧
    ((crowded.update beside true ()).1.2.find? 7).map (·.startTicks) = some 250 ∧
    (sampledTwice.update alone true ()).1.2.find? 7 =
      (crowded.update beside true ()).1.2.find? 7 ∧
    (sampledTwice.sampleAt alone ⟨3000⟩ ()).1.2.find? 7 =
      (crowded.sampleAt beside ⟨3000⟩ ()).1.2.find? 7 := by
  intro alone beside
  have hrun : Run ⟨.ofSeconds 60, 2⟩ _ sampledTwice :=
    (Run.new.pass (shellPass 100)).pass (shellPass 100)
  have hrun' : Run ⟨.ofSeconds 60, 2⟩ _ crowded :=
    (Run.new.pass ⟨.sample, besideShell 100 _, ()⟩).pass ⟨.sample, besideShell 100 _, ()⟩
  obtain ⟨hupdate, hsample⟩ := neighbours_irrelevant (t := sampledTwice) (u := crowded)
    (a := ()) (b := ()) (besideShell_alike 250 "no columns")
    (rfl : (alone.listPids ()).1 = .ok [7]) (rfl : (beside.listPids ()).1 = .ok [7, 9])
    trivial (by decide) (Or.inl (by decide)) rfl rfl (by decide +kernel)
  exact ⟨⟨_, hrun⟩, ⟨_, hrun'⟩, by decide +kernel, by decide +kernel, by decide +kernel,
    by decide +kernel, (hupdate true).2.2, (hsample ⟨3000⟩).2.2.2 rfl⟩

end ProcessTable

end SystemMetrics
