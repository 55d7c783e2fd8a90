import SystemMetrics.Proofs.Daemon.Start
import SystemMetrics.Proofs.Network.Tracking

/-!
# The sections of a report

A report refreshes memory, interfaces and processes one after the other, and a section that cannot
be refreshed is reported as it was. So each section is known from its own source and from what it
was before: memory from the last text that could be read, which is carried along a run, and the
other two from the table that the last report left. Two reports whose systems agree on the source of
one section agree on that section, whatever becomes of the other two.
-/

namespace SystemMetrics

variable {σ τ : Type} {probe : Probe (Observing σ)} {probe' : Probe (Observing τ)} {s : σ}

/-! ## Memory -/

/-- The text of the last successful read, after one more read. -/
def latest (before : String) : Except Fault String → String
  | .ok content => content
  | .error _ => before

namespace Memory

variable {mem : Memory} {text : String}

/-- The figures are those of a text. -/
def Shows (mem : Memory) (text : String) : Prop :=
  mem.snapshot = .ofInfo (Proc.Meminfo.parse text)

theorem Shows.update (h : mem.Shows text) (probe : Probe (Observing σ)) (s : σ) :
    (mem.update probe s).1.2.Shows (latest text (probe.memInfo s).1) := by
  cases hread : (probe.memInfo s).1 with
  | error fault =>
    rw [update_error hread]
    exact h
  | ok content =>
    rw [update_ok hread]
    rfl

theorem start_snapshot (mem : Memory) (probe : Probe (Observing σ)) (s : σ) :
    (mem.start probe s).1.2.snapshot = (mem.update probe s).1.2.snapshot := by
  simp only [start, Observing.bind_run]
  generalize mem.update probe s = answer
  obtain ⟨⟨_ | _, _⟩, _, _⟩ := answer <;> rfl

theorem backgroundPass_snapshot (mem : Memory) (probe : Probe (Observing σ)) (s : σ) :
    (mem.backgroundPass probe s).1.snapshot = mem.snapshot := by
  have hpass : (mem.samplePaging probe s).1.2.snapshot = mem.snapshot := rfl
  simp only [backgroundPass, Observing.bind_run]
  generalize mem.samplePaging probe s = answer at hpass
  obtain ⟨⟨_ | _, _⟩, _, _⟩ := answer <;> exact hpass

end Memory

/-! ## Interfaces and processes -/

theorem InterfaceTable.update_read {content : String} (h : (probe.netDev s).1 = .ok content)
    (t : InterfaceTable) (r : Registry) :
    ∃ found, (Interface.discover probe r s).1.1 = .ok found ∧
      (t.update probe false r s).1.2.1 = t.reconciled (byName found) := by
  obtain ⟨found, hfound⟩ : ∃ found, (Interface.discover probe r s).1.1 = .ok found := by
    simp only [Interface.discover, Observing.bind_run, h]
    exact ⟨_, rfl⟩
  exact ⟨found, hfound, by rw [update_ok (Prod.ext hfound rfl)]; rfl⟩

theorem ProcessTable.update_listed {pids : List Nat} (h : (probe.listPids s).1 = .ok pids)
    (t : ProcessTable) :
    ∃ refreshed, (t.refresh probe s).1 = (.ok (), refreshed) ∧
      (∀ p ∈ refreshed.processes, p.pid ∈ pids) ∧
      (t.update probe true s).1.2 =
        { refreshed with processes := refreshed.processes.map ProcessEntry.updateTimed } := by
  refine ⟨_, refresh_listed h, fun p hp => pid_mem_listed hp, ?_⟩
  rw [update_of_refresh (refresh_listed h)]
  rfl

namespace Families

/-! ## The run of the families -/

theorem pass_snapshot (f : Families) (family : Family) (s : σ) :
    (f.pass probe family s).1.memory.snapshot = f.memory.snapshot := by
  cases family with
  | cpu => rfl
  | paging => exact f.memory.backgroundPass_snapshot probe s
  | process => rfl

/-- The text of `meminfo`, as it is read at the start. -/
def memoryText (probe : Probe (Observing σ)) (settings : Settings) (s : σ) : Except Fault String :=
  (probe.memInfo (probe.monotonicClock ((Processors.new settings.cpu).start probe s).2.1).2.1).1

theorem start_shows {background : Probe (Observing σ)} {settings : Settings} {registry : Registry}
    {f : Families} (h : (start probe background settings registry s).1 = .ok f) :
    f.memory.Shows (latest "" (memoryText probe settings s)) := by
  obtain ⟨hlaunch, s', rfl⟩ := start_ok h
  have hblank : (Memory.new settings.memory).Shows "" := rfl
  rw [Memory.Shows, firstPasses_keep (·.memory.snapshot) pass_snapshot, (launch_ok hlaunch).2,
    Memory.start_snapshot]
  exact hblank.update probe _

/-- The families that a start, passes in the background and reports lead to, with the text of
`meminfo` that was last read. Each of these meets a system of its own. -/
inductive Run (settings : Settings) : String → Families → Prop
  | start {σ : Type} {probe background : Probe (Observing σ)} {registry : Registry} {s : σ}
      {f : Families} (h : (Families.start probe background settings registry s).1 = .ok f) :
      Run settings (latest "" (memoryText probe settings s)) f
  | pass {σ : Type} {text : String} {f : Families} (h : Run settings text f)
      (probe : Probe (Observing σ)) (family : Family) (s : σ) :
      Run settings text (f.pass probe family s).1
  | report {σ : Type} {text : String} {f : Families} (h : Run settings text f)
      (probe : Probe (Observing σ)) (top : Nat) (s : σ) :
      Run settings (latest text (probe.memInfo s).1) (f.report probe top s).1.2

/-! ## One report -/

/-- The system after the memory has been refreshed for a report, and that after the interfaces. -/
def afterMemory (probe : Probe (Observing σ)) (f : Families) (s : σ) : σ :=
  (noteFailure probe .memory (f.memory.update probe s).1.1 (f.memory.update probe s).2.1).2.1

def afterInterfaces (probe : Probe (Observing σ)) (f : Families) (s : σ) : σ :=
  let (answer, s, _) := f.interfaces.update probe false f.registry (f.afterMemory probe s)
  (noteFailure probe .interfaces answer.1 s).2.1

theorem report_run (probe : Probe (Observing σ)) (top : Nat) (f : Families) (s : σ) :
    (f.report probe top s).1 =
      (((f.refresh probe s).1.assemble (probe.wallClock (f.refresh probe s).2.1).1 top),
        (f.refresh probe s).1) := rfl

theorem refresh_run (probe : Probe (Observing σ)) (f : Families) (s : σ) :
    (f.refresh probe s).1 = { f with
      memory := (f.memory.update probe s).1.2
      interfaces :=
        (f.interfaces.update probe false f.registry (f.afterMemory probe s)).1.2.1
      registry :=
        (f.interfaces.update probe false f.registry (f.afterMemory probe s)).1.2.2
      processes := (f.processes.update probe true (f.afterInterfaces probe s)).1.2 } := rfl

theorem Run.shows {settings : Settings} {text : String} {f : Families}
    (h : Run settings text f) : f.memory.Shows text := by
  induction h with
  | start h => exact start_shows h
  | pass _ probe family s ih => exact (pass_snapshot _ family s).trans ih
  | report _ probe top s ih => exact ih.update probe s

/-- What a report says of each section and leaves for the next one, if `text` was the last text of
`meminfo` before it. -/
structure Reported (text : String) (probe : Probe (Observing σ)) (s : σ) (top : Nat)
    (f after : Families) (r : Report) : Prop where
  memory : r.memory.snapshot = .ofInfo (Proc.Meminfo.parse (latest text (probe.memInfo s).1))
  interfacesKept : ∀ fault, (probe.netDev (f.afterMemory probe s)).1 = .error fault →
    r.interfaces = f.interfaces.interfaces
  interfacesReconciled : ∀ content, (probe.netDev (f.afterMemory probe s)).1 = .ok content →
    ∃ found, (Interface.discover probe f.registry (f.afterMemory probe s)).1.1 = .ok found ∧
      InterfaceTable.Reconciles found f.interfaces ⟨r.interfaces⟩
  processesKept : ∀ fault, (probe.listPids (f.afterInterfaces probe s)).1 = .error fault →
    after.processes = f.processes
  processesRefreshed : ∀ pids, (probe.listPids (f.afterInterfaces probe s)).1 = .ok pids →
    ∃ refreshed, (f.processes.refresh probe (f.afterInterfaces probe s)).1 = (.ok (), refreshed) ∧
      (∀ p ∈ refreshed.processes, p.pid ∈ pids) ∧
      after.processes =
        { refreshed with processes := refreshed.processes.map ProcessEntry.updateTimed }
  processes : r.processCount = after.processes.size ∧
    r.topProcesses = topProcesses after.processes.processes top
  cpus : r.cpu.cpus = f.cpus.size ∧ after.cpus = f.cpus

theorem Run.reported {settings : Settings} {text : String} {f : Families}
    (h : Run settings text f) (probe : Probe (Observing σ)) (top : Nat) (s : σ) :
    Reported text probe s top f (f.report probe top s).1.2 (f.report probe top s).1.1 := by
  rw [report_run, refresh_run]
  constructor
  · exact h.shows.update probe s
  · intro fault hread
    show (f.interfaces.update probe false f.registry (f.afterMemory probe s)).1.2.1.interfaces = _
    rw [InterfaceTable.update_error (Interface.discover_error hread)]
  · intro content hread
    obtain ⟨found, hfound, hupdate⟩ := f.interfaces.update_read hread f.registry
    refine ⟨found, hfound, ?_⟩
    show InterfaceTable.Reconciles found f.interfaces
      (f.interfaces.update probe false f.registry (f.afterMemory probe s)).1.2.1
    rw [hupdate]
    exact InterfaceTable.reconciles found f.interfaces
  · intro fault hlist
    show (f.processes.update probe true (f.afterInterfaces probe s)).1.2 = _
    rw [ProcessTable.update_unlisted hlist]
  · exact fun pids hlist => f.processes.update_listed hlist
  · exact ⟨rfl, rfl⟩
  · exact ⟨rfl, rfl⟩

end Families

/-! ## Two reports -/

namespace Section

open Families

/-- What refreshing a section asks and logs. -/
def Asks {m n : Type → Type} [Monad m] [Monad n] (L : Lockstep m n) (probe : Probe m)
    (probe' : Probe n) : Section → Prop
  | .memory => L.ReadsMemory probe probe'
  | .interfaces => L.Discovers probe probe'
  | .processes => L.Passes probe probe'

/-- The families agree on what a section is made of. -/
def Agree (f g : Families) : Section → Prop
  | .memory => f.memory = g.memory
  | .interfaces => f.interfaces = g.interfaces ∧ f.registry = g.registry
  | .processes => f.processes = g.processes

/-- The reports say the same of a section. -/
def SameIn (r r' : Report) : Section → Prop
  | .memory => r.memory = r'.memory
  | .interfaces => r.interfaces = r'.interfaces
  | .processes => r.processCount = r'.processCount ∧ r.topProcesses = r'.topProcesses

/-- Two related systems answer alike to what a section asks and stay related. They also stay related
if one of them alone is asked for another section, or told that a section could not be refreshed. -/
structure Apart (part : Section) (R : σ → τ → Prop) (probe : Probe (Observing σ))
    (probe' : Probe (Observing τ)) : Prop where
  own : part.Asks (Alike.lockstep R) probe probe'
  left : ∀ b, ∀ other ≠ part, other.Asks (Keeps.lockstep (R · b)) probe probe
  right : ∀ a, ∀ other ≠ part, other.Asks (Keeps.lockstep (R a ·)) probe' probe'
  leftNote : ∀ b other fault, Keeps (R · b) (probe.log (.updateFailed other fault))
  rightNote : ∀ a other fault, Keeps (R a ·) (probe'.log (.updateFailed other fault))

variable {still : σ → Prop}

theorem noteFailure_keeps
    (hnote : ∀ other fault, Keeps still (probe.log (.updateFailed other fault)))
    (part : Section) (result : Except Fault Unit) :
    Keeps still (noteFailure probe part result) := by
  cases result with
  | ok _ => exact Keeps.pure _
  | error fault => exact hnote part fault

theorem afterMemory_keeps (hasks : Section.memory.Asks (Keeps.lockstep still) probe probe)
    (hnote : ∀ other fault, Keeps still (probe.log (.updateFailed other fault))) (f : Families)
    (hs : still s) : still (f.afterMemory probe s) :=
  noteFailure_keeps hnote _ _ _ (Lockstep.ReadsMemory.update hasks f.memory s hs)

theorem afterInterfaces_keeps (hmemory : Section.memory.Asks (Keeps.lockstep still) probe probe)
    (hinterfaces : Section.interfaces.Asks (Keeps.lockstep still) probe probe)
    (hnote : ∀ other fault, Keeps still (probe.log (.updateFailed other fault))) (f : Families)
    (hs : still s) : still (f.afterInterfaces probe s) :=
  noteFailure_keeps hnote _ _ _ (Lockstep.Discovers.update hinterfaces f.interfaces false f.registry
    _ (afterMemory_keeps hmemory hnote f hs))

variable {part : Section} {R : σ → τ → Prop} {f g : Families} {a : σ} {b : τ}

/-- What a section is made of after a report depends on what it was made of before and on its own
source. -/
theorem Apart.refresh (h : part.Apart R probe probe') (hagree : part.Agree f g) (hab : R a b) :
    part.Agree (f.refresh probe a).1 (g.refresh probe' b).1 := by
  rw [refresh_run, refresh_run]
  -- Each section is refreshed in the systems that the sections before it leave, still related.
  cases part with
  | memory =>
    have hupdate := (Lockstep.ReadsMemory.update h.own f.memory a b hab).1
    show (f.memory.update probe a).1.2 = (g.memory.update probe' b).1.2
    rw [hupdate, show f.memory = g.memory from hagree]
  | interfaces =>
    have hmemory : R (f.afterMemory probe a) (g.afterMemory probe' b) :=
      afterMemory_keeps (h.right _ .memory (by decide)) (h.rightNote _) g
        (afterMemory_keeps (h.left _ .memory (by decide)) (h.leftNote _) f hab)
    obtain ⟨hinterfaces, hregistry⟩ := hagree
    have hupdate := (Lockstep.Discovers.update h.own f.interfaces false f.registry _ _ hmemory).1
    have hsame : (f.interfaces.update probe false f.registry (f.afterMemory probe a)).1 =
        (g.interfaces.update probe' false g.registry (g.afterMemory probe' b)).1 := by
      rw [hupdate, hinterfaces, hregistry]
    exact ⟨congrArg (·.2.1) hsame, congrArg (·.2.2) hsame⟩
  | processes =>
    have hinterfaces : R (f.afterInterfaces probe a) (g.afterInterfaces probe' b) :=
      afterInterfaces_keeps (h.right _ .memory (by decide)) (h.right _ .interfaces (by decide))
        (h.rightNote _) g
        (afterInterfaces_keeps (h.left _ .memory (by decide)) (h.left _ .interfaces (by decide))
          (h.leftNote _) f hab)
    have hupdate := (Lockstep.Passes.update h.own true f.processes _ _ hinterfaces).1
    show (f.processes.update probe true _).1.2 = (g.processes.update probe' true _).1.2
    rw [hupdate, show f.processes = g.processes from hagree]

theorem Agree.assemble (h : part.Agree f g) (now now' : Timestamp) (top : Nat) :
    part.SameIn (f.assemble now top) (g.assemble now' top) := by
  cases part with
  | memory =>
    show MemoryReport.mk f.memory.snapshot f.memory.pageReads f.memory.pageWrites = _
    rw [show f.memory = g.memory from h]
    rfl
  | interfaces => exact congrArg InterfaceTable.interfaces h.1
  | processes =>
    have h : f.processes = g.processes := h
    exact ⟨congrArg ProcessTable.size h,
      congrArg (fun t : ProcessTable => topProcesses t.processes top) h⟩

end Section

/-- Each section of a report stands on its own. Whatever the families have gone through and whatever
system a report meets: memory shows the text of `meminfo` that was last read, which is the present
one if it can be read; the interfaces are those of before, reconciled with `net/dev` if that can be
read; the processes are those of before, refreshed and with new timed values if they can be listed;
these are the processes that are counted and ranked, and the processors are those of the families.
And another report, on families and a system that agree on what one section is made of and asks
for, says the same of that section and leaves the same for the next report, whatever becomes of the
other sections. -/
theorem Families.Run.sections_apart {settings : Settings} {text : String} {f : Families}
    (h : Run settings text f) {σ : Type} (probe : Probe (Observing σ)) (top : Nat) (s : σ) :
    Reported text probe s top f (f.report probe top s).1.2 (f.report probe top s).1.1 ∧
    ∀ {τ : Type} (probe' : Probe (Observing τ)) (s' : τ) (g : Families) (part : Section)
      (R : σ → τ → Prop), part.Apart R probe probe' → part.Agree f g → R s s' →
      part.SameIn (f.report probe top s).1.1 (g.report probe' top s').1.1 ∧
      part.Agree (f.report probe top s).1.2 (g.report probe' top s').1.2 := by
  refine ⟨h.reported probe top s, fun probe' s' g part R hapart hagree hs => ?_⟩
  have hafter := hapart.refresh hagree hs
  rw [report_run, report_run]
  exact ⟨Section.Agree.assemble hafter _ _ top, hafter⟩

/-! ## Machines that stand still -/

namespace Section

theorem Asks.mono {m n : Type → Type} [Monad m] [Monad n] {L L' : Lockstep m n} {probe : Probe m}
    {probe' : Probe n} {part : Section} (h : part.Asks L probe probe')
    (hmatches : ∀ {α : Type} {x : m α} {y : n α}, L.Matches x y → L'.Matches x y) :
    part.Asks L' probe probe' := by
  cases part with
  | memory => exact ⟨hmatches h.memInfo, fun keys => hmatches (h.log keys)⟩
  | interfaces => exact ⟨hmatches h.netDev, fun name => hmatches (h.interfaceAttributes name)⟩
  | processes =>
    refine ⟨hmatches h.listPids, fun pid => ⟨⟨fun name => ?_, ?_⟩, ?_, ?_⟩, fun e he => ?_⟩
    · exact hmatches ((h.settles pid).processFile name)
    · exact hmatches (h.settles pid).processOwner
    · exact hmatches (h.settles pid).clockTicks
    · exact hmatches (h.settles pid).pageSize
    · exact hmatches (h.log e he)

theorem asks_plain {still : σ → Prop} (h : probe.Plain still) (part : Section) :
    part.Asks (Plain.lockstep still) probe probe := by
  cases part with
  | memory => exact h.readsMemory
  | interfaces => exact h.discovers
  | processes => exact h.passes

/-- Two machines that stand still only have to answer alike for the section itself. -/
theorem apart_static {v w : World} (hv : v.hooks = []) (hw : w.hooks = []) (procPath : String)
    {part : Section} (hown : part.Asks (Alike.lockstep fun a b => a = v ∧ b = w)
      (World.machine.probe procPath) (World.machine.probe procPath)) :
    part.Apart (fun a b => a = v ∧ b = w) (World.machine.probe procPath)
      (World.machine.probe procPath) where
  own := hown
  left _ other _ := (asks_plain (World.plain_static hv procPath) other).mono
    fun h s hs => ⟨(h s hs.1).1, hs.2⟩
  right _ other _ := (asks_plain (World.plain_static hw procPath) other).mono
    fun h s hs => ⟨hs.1, (h s hs.2).1⟩
  leftNote _ _ _ _ hs := hs
  rightNote _ _ _ _ hs := hs

end Section

namespace World

/-- A machine with four megabytes of memory and one process. -/
def populated : World :=
  ({} : World).applyAll [.addFile "/proc/meminfo" "MemTotal: 4096 kB\nMemFree: 1024 kB\n",
    .addFile "/proc/stat" "cpu x\nbtime 5\n", .addFile "/proc/net/dev" "",
    .addFile "/proc/7/stat" "7 (sh) R 1 7 7 0 -1 0 0 0 2 0 10 5 0 0 20 0 1 0 100 0 0",
    .addFile "/proc/7/statm" "900 300 200 1 0 90 0"]

def plugged : List Change :=
  [.addFile "/proc/net/dev" "1\n2\neth0:9 0 0 0 0 0 0 0 0 0 0 0 0 0\n"]

/-- The machine later on, when neither its memory nor its processes can be asked for. -/
def impaired : World :=
  { populated.applyAll (plugged ++ [.remove "/proc/meminfo", .fault "/proc" 5]) with
    interfaces := [("eth0", { up := some true, running := some true })] }

/-- The machine later on, when all can be asked for. -/
def sound : World :=
  { populated.applyAll plugged with
    interfaces := [("eth0", { up := some true, running := some true })] }

theorem exists_started : ∃ f, (Families.start (machine.probe "/proc") (machine.probe "/proc") {} {}
    populated).1 = .ok f := by
  cases h : (Families.start (machine.probe "/proc") (machine.probe "/proc") {} {} populated).1 with
  | ok f => exact ⟨f, rfl⟩
  | error fault =>
    have hlack := (Families.start_error_iff_lack (plain_static rfl "/proc") _ {} {} fault).mp h
    cases hlack

/-- The text that was last read is that of the start. -/
theorem latest_impaired :
    latest (latest "" (Families.memoryText (machine.probe "/proc") {} populated))
      ((machine.probe "/proc").memInfo impaired).1 = "MemTotal: 4096 kB\nMemFree: 1024 kB\n" := by
  have hstarted := (Processors.start_plain (plain_static (w := populated) rfl "/proc")
    (Processors.new ({} : Settings).cpu) populated rfl).1
  have htext : Families.memoryText (machine.probe "/proc") {} populated =
      ((machine.probe "/proc").memInfo populated).1 :=
    congrArg (fun w => ((machine.probe "/proc").memInfo w).1) hstarted
  rw [htext]
  rfl

theorem afterInterfaces_impaired (f : Families) :
    f.afterInterfaces (machine.probe "/proc") impaired = impaired := by
  have hasks (part : Section) : part.Asks (Keeps.lockstep (· = impaired))
      (machine.probe "/proc") (machine.probe "/proc") :=
    (Section.asks_plain (plain_static rfl "/proc") part).mono fun h s hs => (h s hs).1
  exact Section.afterInterfaces_keeps (hasks .memory) (hasks .interfaces) (fun _ _ _ hs => hs) f rfl

theorem discovers_alike : Section.interfaces.Asks
    (Alike.lockstep fun a b => a = impaired ∧ b = sound)
    (machine.probe "/proc") (machine.probe "/proc") where
  netDev := by
    rintro _ _ ⟨rfl, rfl⟩
    have himpaired : ((machine.probe "/proc").netDev impaired).1 =
        .ok "1\n2\neth0:9 0 0 0 0 0 0 0 0 0 0 0 0 0\n" := rfl
    have hsound : ((machine.probe "/proc").netDev sound).1 =
        .ok "1\n2\neth0:9 0 0 0 0 0 0 0 0 0 0 0 0 0\n" := rfl
    exact ⟨himpaired.trans hsound.symm, ((plain_static rfl "/proc").netDev impaired rfl).1,
      ((plain_static rfl "/proc").netDev sound rfl).1⟩
  interfaceAttributes name := by
    rintro _ _ ⟨rfl, rfl⟩
    have hinterfaces : impaired.interfaces = sound.interfaces := rfl
    refine ⟨?_, rfl, rfl⟩
    show impaired.attributes name = sound.attributes name
    rw [attributes, attributes, if_neg (show ¬ impaired.usesKernel = true by decide),
      if_neg (show ¬ sound.usesKernel = true by decide), hinterfaces]

/-- A report that can ask neither for memory nor for processes has the memory of the start and the
processes of before, and the interfaces of a report that can ask for all. -/
theorem sections_apart_impaired :
    ∃ text f, Families.Run {} text f ∧
      let report := (f.report (machine.probe "/proc") 3 impaired).1.1
      let other := (f.report (machine.probe "/proc") 3 sound).1.1
      report.memory.snapshot.totalPhysical = 4 ∧ report.memory.snapshot.used = 3 ∧
      report.processCount = f.processes.size ∧
      report.interfaces = other.interfaces := by
  obtain ⟨f, hf⟩ := exists_started
  have hrun := Families.Run.start hf
  obtain ⟨hreported, hother⟩ :=
    Families.Run.sections_apart hrun (machine.probe "/proc") 3 impaired
  have hlisting : ((machine.probe "/proc").listPids
      (f.afterInterfaces (machine.probe "/proc") impaired)).1 =
      .error (.unreadable "/proc" (.os 5)) := by
    rw [afterInterfaces_impaired]
    rfl
  have hsame := hother (machine.probe "/proc") sound f .interfaces _
    (Section.apart_static rfl rfl "/proc" discovers_alike) ⟨rfl, rfl⟩ ⟨rfl, rfl⟩
  refine ⟨_, f, hrun, ?_, ?_, ?_, hsame.1⟩
  · rw [hreported.memory, latest_impaired]
    decide +kernel
  · rw [hreported.memory, latest_impaired]
    decide +kernel
  · rw [hreported.processes.1, hreported.processesKept _ hlisting]

end World

end SystemMetrics
