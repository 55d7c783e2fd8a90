import SystemMetrics.Proofs.Daemon.Plain
import SystemMetrics.Proofs.Failures

/-!
# The start of the daemon

The families are started one after the other, and each has a few questions to the system that it
cannot do without. The first of these that fails, in the order in which they are put, is what the
start fails of; whatever else cannot be read or makes no sense is done without.
-/

namespace SystemMetrics

variable {σ : Type} {probe : Probe (Observing σ)} {s : σ}

/-- Where a failure of `x` is handed on, what follows only matters if `x` succeeds. -/
theorem stage_answer {α β γ : Type} {x : Observing σ (Except Fault Unit × α)}
    {f : Except Fault Unit × α → Observing σ (Except Fault Unit × β)}
    {answer : Except Fault γ} {rest : Except Fault Unit}
    (hanswer : (x s).1.1 = (do let _ ← answer))
    (hrest : (f (.ok (), (x s).1.2) (x s).2.1).1.1 = rest)
    (herror : ∀ fault a s, (f (.error fault, a) s).1.1 = .error fault := by intros; rfl) :
    ((x >>= f) s).1.1 = (do let _ ← answer; rest) := by
  rw [Observing.bind_run]
  subst hrest
  generalize x s = outcome at hanswer ⊢
  obtain ⟨⟨result, a⟩, s', events⟩ := outcome
  cases answer with
  | error fault =>
    cases hanswer
    exact herror fault a s'
  | ok _ =>
    cases hanswer
    rfl

theorem stage_ok {α β : Type} {x : Observing σ (Except Fault Unit × α)}
    {f : Except Fault Unit × α → Observing σ (Except Fault Unit × β)}
    (h : ((x >>= f) s).1.1 = .ok ())
    (herror : ∀ fault a s, (f (.error fault, a) s).1.1 = .error fault := by intros; rfl) :
    ((x >>= f) s).1 = (f (.ok (), (x s).1.2) (x s).2.1).1 := by
  rw [Observing.bind_run] at h ⊢
  generalize x s = outcome at h ⊢
  obtain ⟨⟨_ | _, a⟩, s', events⟩ := outcome
  · exact absurd ((herror _ a s').symm.trans h) nofun
  · rfl

/-! ## What each family needs -/

theorem Processors.start_answer {ps : Processors} (h : ps.Numbered) :
    (ps.start probe s).1.1 = (do let _ ← (probe.processorsOnline s).1) := by
  simp only [start, Observing.bind_run]
  cases hcount : (probe.processorsOnline s).1 with
  | error fault =>
    rw [update_error hcount]
    rfl
  | ok count =>
    rw [update_ok h hcount]
    rfl

theorem Memory.start_answer (mem : Memory) :
    (mem.start probe s).1.1 = (do let _ ← (probe.memInfo s).1) := by
  simp only [start, Observing.bind_run]
  cases hinfo : (probe.memInfo s).1 with
  | error fault =>
    rw [update_error hinfo]
    rfl
  | ok content =>
    rw [update_ok hinfo]
    rfl

theorem ProcessTable.update_answer (t : ProcessTable) (timedToo : Bool) :
    (t.update probe timedToo s).1.1 = (do let _ ← (probe.listPids s).1) := by
  cases hpids : (probe.listPids s).1 with
  | error fault =>
    rw [update_unlisted hpids]
    rfl
  | ok pids =>
    rw [update_of_refresh (refresh_listed hpids)]
    rfl

theorem ProcessTable.start_answer (t : ProcessTable) :
    (t.start probe s).1.1 = (do
      let _ ← (probe.bootTime s).1
      let _ ← (probe.listPids (probe.bootTime s).2.1).1) := by
  simp only [start, Observing.bind_run]
  cases hboot : (probe.bootTime s).1 with
  | error fault => rfl
  | ok bootTime =>
    change _ = (do let _ ← (probe.listPids (probe.bootTime s).2.1).1)
    exact stage_answer (update_answer _ true) rfl

theorem InterfaceTable.start_answer (t : InterfaceTable) (r : Registry) :
    (t.start probe r s).1.1 = (do let _ ← (probe.netDev s).1) := by
  simp only [start, update, Interface.discover, Observing.bind_run]
  cases (probe.netDev s).1 <;> rfl

theorem Families.beginThread_bind {α : Type} (family : Family) (f : Families)
    (k : Families → Observing σ α) :
    ((f.beginThread probe family >>= k) s).1 =
      (k { f with threads := f.threads ++ [⟨family, (probe.monotonicClock s).1⟩] }
        (probe.monotonicClock s).2.1).1 := rfl

theorem Families.launch_answer (hstatic : probe.Plain (· = s)) (settings : Settings)
    (registry : Registry) :
    (launch probe settings registry s).1.1 = (do
      let _ ← (probe.processorsOnline s).1
      let _ ← (probe.memInfo s).1
      let _ ← (probe.bootTime s).1
      let _ ← (probe.listPids s).1
      let _ ← (probe.netDev s).1) := by
  have hclock : (probe.monotonicClock s).2.1 = s := (hstatic.monotonicClock s rfl).1
  have hprocesses (t : ProcessTable) : (t.start probe s).1.1 = (do
      let _ ← (do
        let _ ← (probe.bootTime s).1
        (probe.listPids s).1)) := by
    rw [ProcessTable.start_answer, (hstatic.bootTime s rfl).1, bind_assoc]
  -- Every stage leaves the system as it is, so that the next one puts its question to `s` again.
  unfold launch
  refine stage_answer (Processors.start_answer (Processors.numbered_new settings.cpu)) ?_
  dsimp only
  rw [(Processors.start_plain hstatic _ s rfl).1, beginThread_bind, hclock]
  refine stage_answer (Memory.start_answer _) ?_
  dsimp only
  rw [(Memory.start_plain hstatic _ s rfl).1, beginThread_bind, hclock]
  refine (stage_answer (hprocesses _) ?_).trans (bind_assoc _ _ _)
  dsimp only
  rw [(ProcessTable.start_plain hstatic _ s rfl).1, beginThread_bind, hclock]
  exact InterfaceTable.start_answer _ _

/-- Whatever the threads meet in their first passes, a start fails as the launch does. -/
theorem Families.start_error_iff (background : Probe (Observing σ)) (settings : Settings)
    (registry : Registry) (fault : Fault) :
    (start probe background settings registry s).1 = .error fault ↔
      (launch probe settings registry s).1.1 = .error fault := by
  simp only [start, Observing.bind_run]
  generalize launch probe settings registry s = answer
  obtain ⟨⟨_ | _, f⟩, _, _⟩ := answer
  · simp only [Observing.bind_run, Observing.pure_run, Except.error.injEq]
  · constructor <;> exact nofun

/-! ## Threads -/

namespace Families

theorem pass_threads (f : Families) (family : Family) (s : σ) :
    (f.pass probe family s).1.threads = f.threads := by
  cases family <;> simp only [pass, Observing.bind_run, Observing.pure_run]

/-- What every pass keeps, the first passes keep. -/
theorem firstPasses_keep {α : Type} (kept : Families → α)
    (h : ∀ f family (s : σ), kept (f.pass probe family s).1 = kept f) (f : Families) (s : σ) :
    kept (f.firstPasses probe s).1 = kept f := by
  have hpasses (threads : List FamilyThread) (f : Families) (s : σ) :
      kept (threads.foldlM (fun f thread => f.pass probe thread.family) f s).1 = kept f := by
    induction threads generalizing f s with
    | nil => rfl
    | cons thread threads ih =>
      rw [List.foldlM_cons, Observing.bind_run]
      exact (ih _ _).trans (h f thread.family s)
  exact hpasses f.threads f s

/-- A launch that gets through has begun three threads, and has read the memory after the clock of
the first of them. -/
theorem launch_ok {settings : Settings} {registry : Registry}
    (h : (launch probe settings registry s).1.1 = .ok ()) :
    (launch probe settings registry s).1.2.threads.map (·.family) = [.cpu, .paging, .process] ∧
    (launch probe settings registry s).1.2.memory = ((Memory.new settings.memory).start probe
      (probe.monotonicClock ((Processors.new settings.cpu).start probe s).2.1).2.1).1.2 := by
  unfold launch at h ⊢
  have hcpus := stage_ok h
  rw [hcpus] at h ⊢
  dsimp only at h ⊢
  rw [beginThread_bind] at h ⊢
  have hmemory := stage_ok h
  rw [hmemory] at h ⊢
  dsimp only at h ⊢
  rw [beginThread_bind] at h ⊢
  have hprocesses := stage_ok h
  rw [hprocesses]
  dsimp only
  rw [beginThread_bind, Observing.bind_run]
  exact ⟨rfl, rfl⟩

/-- A start that gets through leaves what the first passes make of the launch. -/
theorem start_ok {background : Probe (Observing σ)} {settings : Settings} {registry : Registry}
    {f : Families} (h : (start probe background settings registry s).1 = .ok f) :
    (launch probe settings registry s).1.1 = .ok () ∧
      ∃ s', f = ((launch probe settings registry s).1.2.firstPasses background s').1 := by
  simp only [start, Observing.bind_run] at h
  generalize launch probe settings registry s = outcome at h ⊢
  obtain ⟨⟨_ | _, f'⟩, s', _⟩ := outcome
  · cases h
  · cases h
    exact ⟨rfl, s', rfl⟩

theorem start_threads {background : Probe (Observing σ)} {settings : Settings} {registry : Registry}
    {f : Families} (h : (start probe background settings registry s).1 = .ok f) :
    f.threads.map (·.family) = [.cpu, .paging, .process] := by
  obtain ⟨hlaunch, s', rfl⟩ := start_ok h
  rw [firstPasses_keep (·.threads) pass_threads]
  exact (launch_ok hlaunch).1

end Families

/-! ## Needs -/

/-- What the daemon cannot start without, in the order in which it is asked for. -/
inductive Need where
  | processorsOnline
  | memInfo
  | bootTime
  | listing
  | netDev
  deriving DecidableEq, Repr

def Need.all : List Need := [.processorsOnline, .memInfo, .bootTime, .listing, .netDev]

def failure? {ε α : Type} : Except ε α → Option ε
  | .error e => some e
  | .ok _ => none

def Probe.lack? (probe : Probe (Observing σ)) (s : σ) : Need → Option Fault
  | .processorsOnline => failure? (probe.processorsOnline s).1
  | .memInfo => failure? (probe.memInfo s).1
  | .bootTime => failure? (probe.bootTime s).1
  | .listing => failure? (probe.listPids s).1
  | .netDev => failure? (probe.netDev s).1

theorem error_iff_findSome? {α : Type} {lack? : Need → Option Fault} {need : Need}
    {needs : List Need} {answer : Except Fault α} {rest : Except Fault Unit} {fault : Fault}
    (hneed : lack? need = failure? answer)
    (hrest : rest = .error fault ↔ needs.findSome? lack? = some fault) :
    (do let _ ← answer; rest) = .error fault ↔ (need :: needs).findSome? lack? = some fault := by
  rw [List.findSome?_cons, hneed]
  cases answer with
  | error e => simp [failure?, bind, Except.bind]
  | ok _ => exact hrest

/-- On a system that stands still, a start fails of the first need that is not met. -/
theorem Families.start_error_iff_lack (hstatic : probe.Plain (· = s))
    (background : Probe (Observing σ)) (settings : Settings) (registry : Registry)
    (fault : Fault) :
    (start probe background settings registry s).1 = .error fault ↔
      Need.all.findSome? (probe.lack? s) = some fault := by
  rw [start_error_iff, launch_answer hstatic]
  exact error_iff_findSome? rfl (error_iff_findSome? rfl (error_iff_findSome? rfl
    (error_iff_findSome? rfl (error_iff_findSome? rfl (by constructor <;> exact nofun)))))

theorem Command.start_eq_none_iff (hstatic : probe.Plain (· = s)) (o : Options) :
    (start probe o s).1 = none ↔
      ∃ fault, (Families.start probe probe o.settings {} s).1 = .error fault := by
  have hannounced : (announce probe o s).2.1 = s := (announce_plain hstatic o s rfl).1
  simp only [start, Observing.bind_run, hannounced]
  cases (Families.start probe probe o.settings {} s).1 with
  | error fault => exact ⟨fun _ => ⟨fault, rfl⟩, fun _ => rfl⟩
  | ok families => constructor <;> exact nofun

theorem Command.start_threads {o : Options} {f : Families} (h : (start probe o s).1 = some f) :
    f.threads.map (·.family) = [.cpu, .paging, .process] := by
  simp only [start, Observing.bind_run] at h
  cases hstart : (Families.start probe probe o.settings {} (announce probe o s).2.1).1 with
  | error fault =>
    rw [hstart] at h
    cases h
  | ok families =>
    rw [hstart] at h
    cases h
    exact Families.start_threads hstart

namespace Simulation

variable {o : Options} {w : World}

theorem run_unstarted (interrupt : Interrupt)
    (h : (Command.start (World.machine.probe o.procPath) o w).1 = none) :
    run o interrupt w = ⟨1, [], List.filter (Command.isWritten (Command.logLevel o))
      (Command.start (World.machine.probe o.procPath) o w).2.2⟩ := by
  unfold run
  dsimp only
  generalize Command.start (World.machine.probe o.procPath) o w = outcome at h ⊢
  obtain ⟨_ | _, _, events⟩ := outcome
  · rfl
  · cases h

def entered (o : Options) (w : World) (families : Families) : Daemon where
  world := (Command.start (World.machine.probe o.procPath) o w).2.1
  families := families
  loop := .start o.reportInterval o.once
  events := (Command.start (World.machine.probe o.procPath) o w).2.2

def left (o : Options) (interrupt : Interrupt) (w : World) (families : Families) : Daemon :=
  (entered o w families).run o interrupt (actionBound o interrupt)

theorem run_started {families : Families} (interrupt : Interrupt)
    (h : (Command.start (World.machine.probe o.procPath) o w).1 = some families) :
    let d := left o interrupt w families
    run o interrupt w =
      ⟨0, d.printed, List.filter (Command.isWritten (Command.logLevel o)) (d.events ++
        (Command.shutDown (World.machine.probe o.procPath) o d.families d.world).2.2)⟩ := by
  unfold run left entered
  dsimp only
  generalize Command.start (World.machine.probe o.procPath) o w = outcome at h ⊢
  obtain ⟨_ | _, world, events⟩ := outcome
  · cases h
  · cases h
    rfl

end Simulation

/-! ## Simulated machines -/

/-- The first line that begins with `btime` and a space, if there is one, goes on with no number of
64 bits. -/
def LacksBootTime (content : String) : Prop :=
  ∀ line, (Text.lines content.toList).find? ("btime ".toList.isPrefixOf ·) = some line →
    Text.natural64? (Text.trim (line.drop 6)) = none

theorem bootTime?_eq_none_iff (content : String) :
    Proc.bootTime? content = none ↔ LacksBootTime content := by
  unfold Proc.bootTime? LacksBootTime
  generalize Text.lines content.toList = lines
  -- All that matters of the key is its length, and it should not be taken apart into characters.
  have hsize : "btime ".toList.length = 6 := rfl
  generalize "btime ".toList = key at hsize
  induction lines with
  | nil => simp
  | cons line rest ih =>
    rw [List.findSome?_cons, List.find?_cons, Proc.after?]
    cases hprefix : key.isPrefixOf line with
    | true => simp [hsize]
    | false => simpa using ih

namespace World

def textBelow (w : World) (root : Path) (name : String) : Except ReadError String :=
  (readText (root.join name) w).1

/-- What a start says of a need that is not met. -/
def lack? (w : World) (root : Path) : Need → Option Fault
  | .processorsOnline =>
    if (w.setting .processorsOnline).any (0 ≤ ·) then none
    else some (.osCall "sysconf(_SC_NPROCESSORS_ONLN)" w.errno)
  | .memInfo =>
    (failure? (w.textBelow root "meminfo")).map (.unreadable (root.join "meminfo").text)
  | .bootTime => match w.textBelow root "stat" with
    | .error e => some (.unreadable (root.join "stat").text e)
    | .ok content =>
      if (Proc.bootTime? content).isSome then none
      else some (.internal "boot_time" "btime missing in /proc/stat")
  | .listing => (failure? (readAt root (·.children root) w).1).map (.unreadable root.text)
  | .netDev =>
    (failure? (w.textBelow root "net/dev")).map (.unreadable (root.join "net/dev").text)

theorem readBelow_answer (w : World) (root : Path) (name : String) :
    (machine.readBelow root name w).1 = match w.textBelow root name with
      | .ok text => .ok text
      | .error e => .error (.unreadable (root.join name).text e) := by
  have hread : (machine.readText (root.join name) w).1 = w.textBelow root name := rfl
  simp only [Machine.readBelow, Observing.bind_run, hread]
  cases w.textBelow root name <;> rfl

theorem machine_lack? (w : World) (procPath : String) (need : Need) :
    (machine.probe procPath).lack? w need = w.lack? (.ofText procPath) need := by
  have hbelow (root : Path) (name : String) : failure? (machine.readBelow root name w).1 =
      (failure? (w.textBelow root name)).map (.unreadable (root.join name).text) := by
    rw [readBelow_answer]
    cases w.textBelow root name <;> rfl
  cases need with
  | processorsOnline =>
    have hsetting : (machine.setting .processorsOnline w).1 = w.setting .processorsOnline := rfl
    simp only [Probe.lack?, lack?, Machine.probe, Machine.processorsOnline, Observing.bind_run,
      hsetting]
    cases w.setting .processorsOnline with
    | none => rfl
    | some n =>
      by_cases hn : n ≥ 0
      · simp only [if_pos hn, Option.any_some, decide_eq_true hn, if_true]
        rfl
      · simp only [if_neg hn, Option.any_some, decide_eq_false hn, Bool.false_eq_true, if_false]
        rfl
  | memInfo => exact hbelow _ _
  | bootTime =>
    simp only [Probe.lack?, lack?, Machine.probe, Machine.bootTime, Observing.bind_run,
      readBelow_answer]
    cases w.textBelow (.ofText procPath) "stat" with
    | error e => rfl
    | ok content =>
      dsimp only
      cases Proc.bootTime? content <;> rfl
  | listing =>
    have hlist : (machine.listDirectory (.ofText procPath) w).1 =
      (readAt (.ofText procPath) (·.children (.ofText procPath)) w).1 := rfl
    simp only [Probe.lack?, lack?, Machine.probe, Machine.listPids, Observing.bind_run, hlist]
    cases (readAt (.ofText procPath) (·.children (.ofText procPath)) w).1 <;> rfl
  | netDev => exact hbelow _ _

theorem lack?_isSome_iff (w : World) (root : Path) :
    (Need.all.findSome? (w.lack? root)).isSome ↔
      (∀ n, w.setting .processorsOnline = some n → n < 0) ∨
      (∃ e, w.textBelow root "meminfo" = .error e) ∨
      (∃ e, w.textBelow root "stat" = .error e) ∨
      (∃ content, w.textBelow root "stat" = .ok content ∧ LacksBootTime content) ∨
      (∃ e, (readAt root (·.children root) w).1 = .error e) ∨
      ∃ e, w.textBelow root "net/dev" = .error e := by
  have hfailure {α : Type} (x : Except ReadError α) (f : ReadError → Fault) :
      ((failure? x).map f).isSome ↔ ∃ e, x = .error e := by
    cases x <;> simp [failure?]
  have hcount : (w.lack? root .processorsOnline).isSome ↔
      ∀ n, w.setting .processorsOnline = some n → n < 0 := by
    simp only [lack?]
    cases w.setting .processorsOnline <;> simp
  have hboot : (w.lack? root .bootTime).isSome ↔
      (∃ e, w.textBelow root "stat" = .error e) ∨
      ∃ content, w.textBelow root "stat" = .ok content ∧ LacksBootTime content := by
    simp only [lack?, ← bootTime?_eq_none_iff]
    cases w.textBelow root "stat" with
    | error e => simp
    | ok content => cases Proc.bootTime? content <;> simp
  -- `stat` is the one source with two ways to fail, so that five needs make six cases.
  rw [List.isSome_findSome?, List.any_eq_true]
  simp only [Need.all, List.mem_cons, List.not_mem_nil, or_false, exists_eq_or_imp, exists_eq_left,
    hcount, hboot, or_assoc]
  simp only [lack?, hfailure]

/-- Two machines agree on what a start needs. They may differ in `vmstat`, in `cpuinfo`, in the rest
of `stat` and in the files of all processes. -/
structure StartsLike (root : Path) (v w : World) : Prop where
  processorsOnline : v.setting .processorsOnline = w.setting .processorsOnline
  errno : v.errno = w.errno
  memInfo : failure? (v.textBelow root "meminfo") = failure? (w.textBelow root "meminfo")
  bootTime : (v.textBelow root "stat").map Proc.bootTime? =
    (w.textBelow root "stat").map Proc.bootTime?
  listing : failure? (readAt root (·.children root) v).1 =
    failure? (readAt root (·.children root) w).1
  netDev : failure? (v.textBelow root "net/dev") = failure? (w.textBelow root "net/dev")

theorem StartsLike.lack?_eq {root : Path} {v w : World} (h : StartsLike root v w) :
    v.lack? root = w.lack? root := by
  funext need
  cases need with
  | processorsOnline => simp only [lack?, h.processorsOnline, h.errno]
  | memInfo => simp only [lack?, h.memInfo]
  | bootTime =>
    have hboot := h.bootTime
    simp only [lack?]
    cases hv : v.textBelow root "stat" <;> cases hw : w.textBelow root "stat" <;>
      simp_all [Except.map]
  | listing => simp only [lack?, h.listing]
  | netDev => simp only [lack?, h.netDev]

theorem start_error_iff {w : World} (hstatic : w.hooks = []) (procPath : String)
    (background : Probe (Observing World)) (settings : Settings) (registry : Registry)
    (fault : Fault) :
    (Families.start (machine.probe procPath) background settings registry w).1 = .error fault ↔
      Need.all.findSome? (w.lack? (.ofText procPath)) = some fault := by
  rw [Families.start_error_iff_lack (plain_static hstatic procPath),
    funext (machine_lack? w procPath)]

theorem start_eq_none_iff {w : World} (hstatic : w.hooks = []) (o : Options) :
    (Command.start (machine.probe o.procPath) o w).1 = none ↔
      (Need.all.findSome? (w.lack? (.ofText o.procPath))).isSome := by
  rw [Command.start_eq_none_iff (plain_static hstatic o.procPath), Option.isSome_iff_exists]
  exact exists_congr fun fault => start_error_iff hstatic o.procPath _ _ _ fault

/-- On a machine on which nothing changes meanwhile, a start fails exactly if one of its needs is
not met, and with the fault of the first: the number of processors online, a text in `meminfo`, a
text in `stat` with the time of boot, the listing of the proc directory, and a text in `net/dev`.
Whatever else two machines differ in, a start on them fails alike. The daemon then ends with 1 and
without a report. -/
theorem start_fails_iff {w : World} (hstatic : w.hooks = []) (o : Options) :
    let root := Path.ofText o.procPath
    let lack := Need.all.findSome? (w.lack? root)
    (∀ (background : Probe (Observing World)) (settings : Settings) (registry : Registry)
      (fault : Fault),
      (Families.start (machine.probe o.procPath) background settings registry w).1 = .error fault ↔
        lack = some fault) ∧
    (lack.isSome ↔
      (∀ n, w.setting .processorsOnline = some n → n < 0) ∨
      (∃ e, w.textBelow root "meminfo" = .error e) ∨
      (∃ e, w.textBelow root "stat" = .error e) ∨
      (∃ content, w.textBelow root "stat" = .ok content ∧ LacksBootTime content) ∨
      (∃ e, (readAt root (·.children root) w).1 = .error e) ∨
      ∃ e, w.textBelow root "net/dev" = .error e) ∧
    (∀ v : World, v.hooks = [] → StartsLike root v w →
      ∀ (background : Probe (Observing World)) (settings : Settings) (registry : Registry)
        (fault : Fault),
        (Families.start (machine.probe o.procPath) background settings registry v).1 =
          .error fault ↔ lack = some fault) ∧
    ∀ interrupt,
      (Simulation.run o interrupt w).exitCode = (if lack.isSome then 1 else 0) ∧
      (lack.isSome → (Simulation.run o interrupt w).printed = [] ∧
        reportTexts (Simulation.run o interrupt w).events = []) := by
  intro root lack
  refine ⟨start_error_iff hstatic o.procPath, lack?_isSome_iff w root, fun v hv hlike => ?_,
    fun interrupt => ?_⟩
  · have hlack : lack = Need.all.findSome? (v.lack? root) := by rw [hlike.lack?_eq]
    rw [hlack]
    exact start_error_iff hv o.procPath
  have hnone := start_eq_none_iff hstatic o
  cases h : (Command.start (machine.probe o.procPath) o w).1 with
  | none =>
    rw [Simulation.run_unstarted interrupt h, if_pos (hnone.mp h)]
    refine ⟨rfl, fun _ => ⟨rfl, ?_⟩⟩
    rw [reportTexts_written, (Command.start_plain (plain_static hstatic o.procPath) o w rfl).2,
      ite_self]
  | some families =>
    have hmet : ¬lack.isSome := fun hlack => by
      rw [hnone.mpr hlack] at h
      cases h
    rw [Simulation.run_started interrupt h, if_neg hmet]
    exact ⟨rfl, fun hlack => absurd hlack hmet⟩

/-- A machine with the texts that a start needs and a process that makes no sense, but without
`vmstat` and `cpuinfo`. -/
def sparse : World :=
  let file (path text : String) (t : MemoryTree) := t.addFile (.ofText path) text
  { storage := .memory (file "/proc/meminfo" "" (file "/proc/stat" "cpu x\nbtime 5\n"
      (file "/proc/net/dev" "" (file "/proc/7/stat" "7" {})))) }

theorem lack?_sparse : Need.all.findSome? (sparse.lack? (.ofText "/proc")) = none := by rfl

/-- The sparse machine is enough to start on, and no longer so without processors to count. -/
theorem start_fails_uncounted :
    (Simulation.run {} none sparse).exitCode = 0 ∧
    (Simulation.run {} none { sparse with settings := [] }).exitCode = 1 := by
  have hlack : (Need.all.findSome?
      (lack? { sparse with settings := [] } (.ofText "/proc"))).isSome := by rfl
  obtain ⟨hstarted, -⟩ := (start_fails_iff (w := sparse) rfl {}).2.2.2 none
  obtain ⟨hfailed, -⟩ := (start_fails_iff (w := { sparse with settings := [] }) rfl {}).2.2.2 none
  exact ⟨hstarted.trans (by rw [lack?_sparse]; rfl), hfailed.trans (if_pos hlack)⟩

end World

end SystemMetrics
