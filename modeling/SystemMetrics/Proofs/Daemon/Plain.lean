import SystemMetrics.Proofs.Steady
import SystemMetrics.Simulation.Run

/-!
# Operations beside the reports

Nothing but a report writes lines of a report. All that the families do to start, to sample and to
refresh themselves therefore stays out of what the daemon reports, whatever it logs. The same
operations keep what every question to the system keeps, and both are proved together: an operation
is plain where the questions that it asks are.
-/

namespace SystemMetrics

def Event.reportText? : Event → Option String
  | .reportLine text => some text
  | _ => none

/-- The lines of reports among some events. -/
def reportTexts (events : List Event) : List String := events.filterMap Event.reportText?

@[simp] theorem reportTexts_append (events more : List Event) :
    reportTexts (events ++ more) = reportTexts events ++ reportTexts more :=
  List.filterMap_append

/-- Lines of a report are written unless the daemon is to be quiet. -/
theorem reportTexts_written (o : Options) (events : List Event) :
    reportTexts (events.filter (Command.isWritten (Command.logLevel o))) =
      if o.quiet then [] else reportTexts events := by
  have hwritten (e : Event) :
      (if Command.isWritten (Command.logLevel o) e then e.reportText? else none) =
        if o.quiet then none else e.reportText? := by
    cases e with
    | reportLine text =>
      cases hquiet : o.quiet with
      | true => simp [Command.isWritten, Command.logLevel, hquiet, Event.level, Level.detail]
      | false =>
        simp only [Command.isWritten, Command.logLevel, hquiet, Bool.false_eq_true, if_false]
        split <;> rfl
    | _ => simp [Event.reportText?]
  rw [reportTexts, List.filterMap_filter, funext hwritten]
  cases o.quiet
  · rfl
  · exact List.filterMap_eq_nil_iff.mpr fun _ _ => rfl

theorem reportTexts_entries (r : Report) : reportTexts r.entries = r.lines := by
  have hlines : reportTexts (r.lines.map .reportLine) = r.lines := by
    rw [reportTexts, List.filterMap_map]
    exact List.filterMap_some
  have hdetails : reportTexts
      (r.interfaces.map fun i => .reportDetail (Report.describeInterface i)) = [] := by
    rw [reportTexts, List.filterMap_map]
    exact List.filterMap_eq_nil_iff.mpr fun _ _ => rfl
  rw [Report.entries, reportTexts_append, hlines, hdetails, List.append_nil]

variable {σ α β : Type} {still : σ → Prop}

theorem Observing.forM_run {f : α → Observing σ PUnit} {events : α → List Event} {s : σ}
    (h : ∀ a, f a s = ((), s, events a)) (l : List α) :
    (l.forM f) s = ((), s, l.flatMap events) := by
  induction l with
  | nil => rfl
  | cons a l ih =>
    change (f a >>= fun _ => l.forM f) s = _
    rw [Observing.bind_run, h a, ih]
    rfl

/-- Wherever `still` holds, `x` leaves it so and writes no line of a report. -/
def Plain (still : σ → Prop) (x : Observing σ α) : Prop :=
  ∀ s, still s → still (x s).2.1 ∧ reportTexts (x s).2.2 = []

namespace Plain

theorem pure (a : α) : Plain still (Pure.pure a : Observing σ α) := fun _ hs => ⟨hs, rfl⟩

theorem bind {x : Observing σ α} {f : α → Observing σ β} (hx : Plain still x)
    (hf : ∀ a, Plain still (f a)) : Plain still (x >>= f) := by
  intro s hs
  obtain ⟨hstill, hquiet⟩ := hx s hs
  obtain ⟨hnext, hmore⟩ := hf (x s).1 (x s).2.1 hstill
  rw [Observing.bind_run]
  exact ⟨hnext, by rw [reportTexts_append, hquiet, hmore, List.append_nil]⟩

/-- Computations matched with themselves, if they are plain. -/
def lockstep (still : σ → Prop) : Lockstep (Observing σ) (Observing σ) where
  Matches x _ := Plain still x
  pure := pure
  bind := bind

theorem forM {f : α → Observing σ PUnit} {l : List α} (h : ∀ a ∈ l, Plain still (f a)) :
    Plain still (l.forM f) :=
  (lockstep still).forM (g := f) h

theorem foldlM {f : β → α → Observing σ β} (h : ∀ b a, Plain still (f b a)) (l : List α) (b : β) :
    Plain still (l.foldlM f b) :=
  (lockstep still).foldlM (g := f) (fun b a _ => h b a) b

end Plain

/-- Every question that the families ask is plain, and so is writing any event but the line of a
report. -/
structure Probe.Plain (probe : Probe (Observing σ)) (still : σ → Prop) : Prop where
  systemStat : SystemMetrics.Plain still probe.systemStat
  memInfo : SystemMetrics.Plain still probe.memInfo
  vmStat : SystemMetrics.Plain still probe.vmStat
  netDev : SystemMetrics.Plain still probe.netDev
  processorsOnline : SystemMetrics.Plain still probe.processorsOnline
  listPids : SystemMetrics.Plain still probe.listPids
  processFile : ∀ pid name, SystemMetrics.Plain still (probe.processFile pid name)
  processOwner : ∀ pid, SystemMetrics.Plain still (probe.processOwner pid)
  bootTime : SystemMetrics.Plain still probe.bootTime
  clockTicks : SystemMetrics.Plain still probe.clockTicks
  pageSize : SystemMetrics.Plain still probe.pageSize
  interfaceAttributes : ∀ name, SystemMetrics.Plain still (probe.interfaceAttributes name)
  wallClock : SystemMetrics.Plain still probe.wallClock
  monotonicClock : SystemMetrics.Plain still probe.monotonicClock
  log : ∀ e : Event, e.reportText? = none → SystemMetrics.Plain still (probe.log e)

variable {probe : Probe (Observing σ)}

theorem Probe.Plain.logAll (h : probe.Plain still) {events : List Event}
    (hquiet : reportTexts events = []) : SystemMetrics.Plain still (events.forM probe.log) :=
  SystemMetrics.Plain.forM fun e he => h.log e (List.filterMap_eq_nil_iff.mp hquiet e he)

theorem Event.reportText?_ofPass {e : Event} (h : e.ofPass = true) : e.reportText? = none := by
  cases e with
  | reportLine text => cases h
  | _ => rfl

theorem Probe.Plain.passes (h : probe.Plain still) :
    (Plain.lockstep still).Passes probe probe where
  listPids := h.listPids
  settles pid := ⟨⟨h.processFile pid, h.processOwner pid⟩, h.clockTicks, h.pageSize⟩
  log e he := h.log e (Event.reportText?_ofPass he)

theorem Probe.Plain.readsMemory (h : probe.Plain still) :
    (Plain.lockstep still).ReadsMemory probe probe where
  memInfo := h.memInfo
  log _ := h.log _ rfl

theorem Probe.Plain.discovers (h : probe.Plain still) :
    (Plain.lockstep still).Discovers probe probe where
  netDev := h.netDev
  interfaceAttributes := h.interfaceAttributes

/-! ## Processors -/

namespace Processors

theorem reportTexts_recordLine (takenAt : Nat) (ps : Processors) (line : List Char) :
    reportTexts (ps.recordLine takenAt line).2 = [] := by
  unfold recordLine
  split
  · rfl
  · rfl
  · rfl
  · split <;> rfl

theorem reportTexts_recordLines (takenAt : Nat) (lines : List (List Char)) (ps : Processors) :
    reportTexts (recordLines takenAt lines ps).2 = [] := by
  induction lines generalizing ps with
  | nil => rfl
  | cons line rest ih =>
    simp only [recordLines, reportTexts_append, reportTexts_recordLine, ih, List.append_nil]

theorem read_plain (h : probe.Plain still) : Plain still (read probe) := by
  refine h.systemStat.bind fun answer => ?_
  cases answer with
  | error fault => exact Plain.pure _
  | ok content => exact h.monotonicClock.bind fun _ => Plain.pure _

theorem sample_plain (h : probe.Plain still) (ps : Processors) :
    Plain still (ps.sample probe) := by
  refine (read_plain h).bind fun answer => ?_
  cases answer with
  | error fault => exact Plain.pure _
  | ok reading =>
    exact (h.logAll (reportTexts_recordLines _ _ _)).bind fun _ => Plain.pure _

theorem update_plain (h : probe.Plain still) (sampleToo : Bool) (ps : Processors) :
    Plain still (ps.update probe sampleToo) := by
  refine h.processorsOnline.bind fun answer => ?_
  cases answer with
  | error fault => exact Plain.pure _
  | ok count =>
    dsimp only
    split
    · exact Plain.pure _
    · split
      · exact sample_plain h _
      · exact Plain.pure _

theorem start_plain (h : probe.Plain still) (ps : Processors) : Plain still (ps.start probe) := by
  refine (update_plain h false ps).bind fun answer => ?_
  match answer with
  | (.error _, _) => exact Plain.pure _
  | (.ok (), _) => exact (h.log _ rfl).bind fun _ => Plain.pure _

theorem backgroundPass_plain (h : probe.Plain still) (ps : Processors) :
    Plain still (ps.backgroundPass probe) := by
  refine (sample_plain h ps).bind fun answer => ?_
  match answer with
  | (.error _, _) => exact (h.log _ rfl).bind fun _ => Plain.pure _
  | (.ok (), _) => exact Plain.pure _

end Processors

/-! ## Memory -/

namespace Memory

theorem update_plain (h : probe.Plain still) (mem : Memory) : Plain still (mem.update probe) :=
  h.readsMemory.update mem

theorem samplePaging_plain (h : probe.Plain still) (mem : Memory) :
    Plain still (mem.samplePaging probe) := by
  refine Plain.bind ?_ fun _ => Plain.pure _
  refine Plain.bind ?_ fun answer => ?_
  · refine h.vmStat.bind fun answer => ?_
    cases answer with
    | error fault => exact Plain.pure _
    | ok content =>
      dsimp only
      split <;> exact Plain.pure _
  · cases answer with
    | error fault => exact Plain.pure _
    | ok counters => exact h.monotonicClock.bind fun _ => Plain.pure _

theorem start_plain (h : probe.Plain still) (mem : Memory) : Plain still (mem.start probe) := by
  refine (update_plain h mem).bind fun answer => ?_
  match answer with
  | (.error _, _) => exact Plain.pure _
  | (.ok (), _) => exact (h.log _ rfl).bind fun _ => Plain.pure _

theorem backgroundPass_plain (h : probe.Plain still) (mem : Memory) :
    Plain still (mem.backgroundPass probe) := by
  refine (samplePaging_plain h mem).bind fun answer => ?_
  match answer with
  | (.error _, _) => exact (h.log _ rfl).bind fun _ => Plain.pure _
  | (.ok (), _) => exact Plain.pure _

end Memory

/-! ## Processes -/

namespace ProcessTable

theorem update_plain (h : probe.Plain still) (timedToo : Bool) (t : ProcessTable) :
    Plain still (t.update probe timedToo) :=
  h.passes.update timedToo t

theorem sample_plain (h : probe.Plain still) (t : ProcessTable) :
    Plain still (t.sample probe) := by
  refine h.wallClock.bind fun now => Plain.bind (h.passes.refresh t) fun answer => ?_
  match answer with
  | (.error _, _) => exact Plain.pure _
  | (.ok (), _) => exact h.monotonicClock.bind fun _ => Plain.pure _

theorem start_plain (h : probe.Plain still) (t : ProcessTable) : Plain still (t.start probe) := by
  refine h.bootTime.bind fun answer => ?_
  cases answer with
  | error fault => exact Plain.pure _
  | ok bootTime =>
    refine (update_plain h true _).bind fun answer => ?_
    match answer with
    | (.error _, _) => exact Plain.pure _
    | (.ok (), _) => exact (h.log _ rfl).bind fun _ => Plain.pure _

theorem backgroundPass_plain (h : probe.Plain still) (t : ProcessTable) :
    Plain still (t.backgroundPass probe) := by
  refine (sample_plain h t).bind fun answer => ?_
  match answer with
  | (.error _, _) => exact (h.log _ rfl).bind fun _ => Plain.pure _
  | (.ok (), _) => exact Plain.pure _

end ProcessTable

/-! ## Interfaces -/

namespace InterfaceTable

theorem update_plain (h : probe.Plain still) (trackedOnly : Bool) (t : InterfaceTable)
    (r : Registry) : Plain still (t.update probe trackedOnly r) :=
  h.discovers.update t trackedOnly r

theorem start_plain (h : probe.Plain still) (t : InterfaceTable) (r : Registry) :
    Plain still (t.start probe r) := by
  refine (update_plain h false t r).bind fun answer => ?_
  match answer with
  | (.error _, _, _) => exact Plain.pure _
  | (.ok (), _, _) => exact (h.log _ rfl).bind fun _ => Plain.pure _

end InterfaceTable

/-! ## All families -/

namespace Families

theorem beginThread_plain (h : probe.Plain still) (family : Family) (f : Families) :
    Plain still (f.beginThread probe family) :=
  h.monotonicClock.bind fun _ => Plain.pure _

theorem pass_plain (h : probe.Plain still) (f : Families) (family : Family) :
    Plain still (f.pass probe family) := by
  cases family with
  | cpu => exact (Processors.backgroundPass_plain h _).bind fun _ => Plain.pure _
  | paging => exact (Memory.backgroundPass_plain h _).bind fun _ => Plain.pure _
  | process => exact (ProcessTable.backgroundPass_plain h _).bind fun _ => Plain.pure _

theorem firstPasses_plain (h : probe.Plain still) (f : Families) :
    Plain still (f.firstPasses probe) := by
  refine Plain.foldlM (fun f thread => ?_) f.threads f
  exact pass_plain h f thread.family

theorem stop_plain (h : probe.Plain still) (settings : Settings) (threads : List FamilyThread) :
    Plain still (stop probe settings threads) := by
  refine Plain.forM fun thread _ => ?_
  split
  · exact h.log _ rfl
  · exact Plain.pure ()

theorem launch_plain (h : probe.Plain still) (settings : Settings) (registry : Registry) :
    Plain still (launch probe settings registry) := by
  refine (Processors.start_plain h _).bind fun answer => ?_
  match answer with
  | (.error _, _) => exact Plain.pure _
  | (.ok (), _) =>
    refine (beginThread_plain h .cpu _).bind fun f => ?_
    refine (Memory.start_plain h _).bind fun answer => ?_
    match answer with
    | (.error _, _) => exact Plain.pure _
    | (.ok (), _) =>
      refine (beginThread_plain h .paging _).bind fun f => ?_
      refine (ProcessTable.start_plain h _).bind fun answer => ?_
      match answer with
      | (.error _, _) => exact Plain.pure _
      | (.ok (), _) =>
        refine (beginThread_plain h .process _).bind fun f => ?_
        exact (InterfaceTable.start_plain h _ _).bind fun _ => Plain.pure _

theorem start_plain (h : probe.Plain still) (settings : Settings) (registry : Registry) :
    Plain still (start probe probe settings registry) := by
  refine (launch_plain h settings registry).bind fun (result, f) => ?_
  refine (firstPasses_plain h f).bind fun f => ?_
  match result with
  | .ok () => exact Plain.pure _
  | .error _ => exact (stop_plain h settings _).bind fun _ => Plain.pure _

theorem noteFailure_plain (h : probe.Plain still) (part : Section) (result : Except Fault Unit) :
    Plain still (noteFailure probe part result) := by
  cases result with
  | ok _ => exact Plain.pure ()
  | error fault => exact h.log _ rfl

theorem refresh_plain (h : probe.Plain still) (f : Families) : Plain still (f.refresh probe) :=
  (Memory.update_plain h _).bind fun _ => (noteFailure_plain h _ _).bind fun _ =>
    (InterfaceTable.update_plain h _ _ _).bind fun _ => (noteFailure_plain h _ _).bind fun _ =>
      (ProcessTable.update_plain h _ _).bind fun _ => (noteFailure_plain h _ _).bind fun _ =>
        Plain.pure _

theorem report_plain (h : probe.Plain still) (top : Nat) (f : Families) :
    Plain still (f.report probe top) :=
  (refresh_plain h f).bind fun _ => h.wallClock.bind fun _ => Plain.pure _

end Families

namespace Command

theorem announce_plain (h : probe.Plain still) (o : Options) : Plain still (announce probe o) :=
  (h.log _ rfl).bind fun _ => h.log _ rfl

theorem start_plain (h : probe.Plain still) (o : Options) : Plain still (start probe o) := by
  refine (announce_plain h o).bind fun _ => ?_
  refine (Families.start_plain h o.settings {}).bind fun answer => ?_
  cases answer with
  | error fault => exact (h.log _ rfl).bind fun _ => Plain.pure _
  | ok families => exact (h.log _ rfl).bind fun _ => Plain.pure _

theorem shutDown_plain (h : probe.Plain still) (o : Options) (f : Families) :
    Plain still (shutDown probe o f) :=
  (h.log _ rfl).bind fun _ => (Families.stop_plain h o.settings f.threads).bind fun _ =>
    h.log _ rfl

end Command

/-! ## Simulated machines -/

namespace World

/-- On a machine held in memory it takes a read to change anything. -/
theorem machine_plain {still : World → Prop}
    (hread : ∀ (α : Type) (p : Path) (read : Storage → Except ReadError α) (w : World),
      still w → still (readAt p read w).2) (procPath : String) :
    (machine.probe procPath).Plain still := by
  have hanswer {α : Type} (p : Path) (read : Storage → Except ReadError α) :
      Plain still (Observing.answer (readAt p read)) := fun w hw => ⟨hread α p read w hw, rfl⟩
  have hgets {α : Type} (f : World → α) : Plain still (Observing.gets f) := fun w hw => ⟨hw, rfl⟩
  have hlog (e : Event) (he : e.reportText? = none) : Plain still (Observing.log e) :=
    fun w hw => ⟨hw, by simp [reportTexts, he]⟩
  have h : (Plain.lockstep still).Serves machine machine :=
    { readText := fun _ => hanswer _ _
      listDirectory := fun _ => hanswer _ _
      owner := fun _ => hgets _
      setting := fun _ => hgets _
      lastErrno := hgets _
      log := fun _ _ => hlog _ rfl }
  exact
    { systemStat := h.readBelow _ _
      memInfo := h.readBelow _ _
      vmStat := h.readBelow _ _
      netDev := h.readBelow _ _
      processorsOnline := h.processorsOnline
      listPids := h.listPids _
      processFile := fun _ _ => hanswer _ _
      processOwner := fun _ => hgets _
      bootTime := h.bootTime _
      clockTicks := h.settingOr _ _
      pageSize := h.settingOr _ _
      interfaceAttributes := fun _ => hgets _
      wallClock := hgets _
      monotonicClock := hgets _
      log := hlog }

theorem applyAll_wallClock (w : World) (changes : List Change) :
    (w.applyAll changes).wallClock = w.wallClock := by
  induction changes generalizing w with
  | nil => rfl
  | cons change rest ih => exact (ih (w.apply change)).trans (by cases change <;> rfl)

theorem readAt_wallClock {α : Type} (p : Path) (read : Storage → Except ReadError α) (w : World) :
    (readAt p read w).2.wallClock = w.wallClock := by
  simp only [readAt, applyAll_wallClock]

theorem plain_wallClock (now : Timestamp) (procPath : String) :
    (machine.probe procPath).Plain (·.wallClock = now) :=
  machine_plain (fun _ p read w hw => (readAt_wallClock p read w).trans hw) procPath

theorem readAt_static {α : Type} (p : Path) (read : Storage → Except ReadError α) {w : World}
    (hstatic : w.hooks = []) : (readAt p read w).2 = w := by
  simp only [readAt, hstatic]
  obtain ⟨⟩ := w
  cases hstatic
  rfl

theorem plain_static {w : World} (hstatic : w.hooks = []) (procPath : String) :
    (machine.probe procPath).Plain (· = w) :=
  machine_plain (fun _ p read _ hv => hv ▸ readAt_static p read (hv ▸ hstatic)) procPath

end World

end SystemMetrics
