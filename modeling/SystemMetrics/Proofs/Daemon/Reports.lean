import Mathlib.Algebra.Order.Floor.Div
import SystemMetrics.Proofs.Daemon.Start

/-!
# The reports of a run

The loop sleeps in naps and looks for a request to stop before each of them and before each report.
So the reports that are made are those whose interval is over before the request comes. The loop is
followed step by step, with a record of its reports, through an invariant that says how much sleep
separates it from the next one.
-/

namespace SystemMetrics.Simulation

/-- A report, and how long the daemon had slept when it was made. -/
structure Emission where
  slept : Nat
  report : Report

namespace Daemon

variable {o : Options} {interrupt : Interrupt} {d last : Daemon} {made : List Emission}

/-! ## One report -/

def reporting (o : Options) (d : Daemon) : (Report × Families) × World × List Event :=
  d.families.report (World.machine.probe o.procPath) o.top d.world

theorem threads_reporting : (d.reporting o).1.2.threads = d.families.threads := by
  simp only [reporting, Families.report, Families.refresh, Observing.bind_run, Observing.pure_run]

theorem plain_reporting : (d.reporting o).2.1.wallClock = d.world.wallClock ∧
    reportTexts (d.reporting o).2.2 = [] := by
  unfold reporting
  exact Families.report_plain (World.plain_wallClock d.world.wallClock o.procPath) o.top d.families
    d.world rfl

theorem timestamp_reporting : (d.reporting o).1.1.timestamp = d.world.wallClock := by
  have hclock (w : World) : ((World.machine.probe o.procPath).wallClock w).1 = w.wallClock := rfl
  simp only [reporting, Families.report, Families.assemble, Observing.bind_run,
    Observing.pure_run, hclock]
  exact (Families.refresh_plain (World.plain_wallClock d.world.wallClock o.procPath) d.families
    d.world rfl).1

theorem command_report (o : Options) (d : Daemon) :
    Command.report (World.machine.probe o.procPath) o d.families d.world =
      if o.json then ((some (d.reporting o).1.1, (d.reporting o).1.2), (d.reporting o).2)
      else ((none, (d.reporting o).1.2), (d.reporting o).2.1, (d.reporting o).2.2 ++
        (d.reporting o).1.1.entries) := by
  have hlog (w : World) (e : Event) :
      (World.machine.probe o.procPath).log e w = ((), w, [e]) := rfl
  simp only [Command.report, Observing.bind_run, reporting]
  split
  · simp only [Observing.pure_run, List.append_nil]
  · simp only [Observing.bind_run, Report.logLines, Observing.pure_run, List.append_nil]
    rw [Observing.forM_run (hlog _), List.flatMap_singleton']

-- Nothing else about a report matters to the loop, and no proof should go on to compute one.
attribute [irreducible] reporting

/-! ## Steps of the loop -/

/-- Nothing more is done in the loop. -/
def Ended (d : Daemon) : Prop := d.loop.finished = true ∨ d.stopRequested = true

def finish (d : Daemon) : Daemon := { d with loop := { d.loop with finished := true } }

def nap (interrupt : Interrupt) (d : Daemon) : Daemon :=
  let ms := min d.loop.remaining ReportLoop.nap
  sleep interrupt ms { d with loop := { d.loop with remaining := d.loop.remaining - ms } }

/-- A report, with which a new interval begins. -/
def turn (o : Options) (d : Daemon) : Daemon :=
  report o { d with
    loop := { d.loop with remaining := d.loop.interval, finished := d.loop.once } }

def emission (o : Options) (d : Daemon) : Emission := ⟨d.slept, (d.reporting o).1.1⟩

theorem slept_nap : (d.nap interrupt).slept = d.slept + min d.loop.remaining ReportLoop.nap := rfl

theorem loop_nap : (d.nap interrupt).loop =
    { d.loop with remaining := d.loop.remaining - min d.loop.remaining ReportLoop.nap } := rfl

theorem turn_eq (o : Options) (d : Daemon) : d.turn o = { d with
    loop := { d.loop with remaining := d.loop.interval, finished := d.loop.once }
    families := (d.reporting o).1.2
    world := (d.reporting o).2.1
    printed := d.printed ++ if o.json then [(d.reporting o).1.1] else []
    events := d.events ++ ((d.reporting o).2.2 ++ if o.json then []
      else (d.reporting o).1.1.entries) } := by
  simp only [turn, report, command_report]
  cases o.json
  · simp only [Bool.false_eq_true, if_false, Option.toList_none]
  · simp only [if_true, Option.toList_some, List.append_nil]

theorem slept_turn : (d.turn o).slept = d.slept := by rw [turn_eq]

theorem loop_turn : (d.turn o).loop =
    { d.loop with remaining := d.loop.interval, finished := d.loop.once } := by rw [turn_eq]

theorem stopRequested_nap : (d.nap interrupt).stopRequested = true ↔
    d.stopRequested = true ∨ ∃ t, interrupt = some t ∧ t ≤ (d.nap interrupt).slept := by
  rw [slept_nap]
  cases hstop : d.stopRequested <;> simp [nap, sleep, hstop, Option.any_eq_true]

theorem stopRequested_turn : (d.turn o).stopRequested = d.stopRequested := by rw [turn_eq]

theorem run_ended (h : d.Ended) (n : Nat) : d.run o interrupt (n + 1) = d.finish := by
  have hnext : d.loop.next d.stopRequested = (.finish, { d.loop with finished := true }) :=
    if_pos (by simpa [Ended] using h)
  simp only [run, hnext, finish]

theorem run_nap (h : ¬d.Ended) (hleft : 0 < d.loop.remaining) (n : Nat) :
    d.run o interrupt (n + 1) = (d.nap interrupt).run o interrupt n := by
  have hnext : d.loop.next d.stopRequested = (.sleep (min d.loop.remaining ReportLoop.nap),
      { d.loop with
        remaining := d.loop.remaining - min d.loop.remaining ReportLoop.nap }) :=
    (if_neg (by simpa [Ended] using h)).trans (if_pos hleft)
  simp only [run, hnext, nap]

theorem run_turn (h : ¬d.Ended) (hleft : d.loop.remaining = 0) (n : Nat) :
    d.run o interrupt (n + 1) = (d.turn o).run o interrupt n := by
  have hnext : d.loop.next d.stopRequested =
      (.report, { d.loop with remaining := d.loop.interval, finished := d.loop.once }) :=
    (if_neg (by simpa [Ended] using h)).trans (if_neg (by omega))
  simp only [run, hnext, turn]

/-- The loop leads from one daemon to another and makes these reports. -/
inductive Loops (o : Options) (interrupt : Interrupt) : Daemon → List Emission → Daemon → Prop
  | ended {d : Daemon} (h : d.Ended) : Loops o interrupt d [] d.finish
  | nap {d last : Daemon} {made : List Emission} (h : ¬d.Ended) (hleft : 0 < d.loop.remaining)
      (rest : Loops o interrupt (d.nap interrupt) made last) : Loops o interrupt d made last
  | turn {d last : Daemon} {made : List Emission} (h : ¬d.Ended) (hleft : d.loop.remaining = 0)
      (rest : Loops o interrupt (d.turn o) made last) :
      Loops o interrupt d (d.emission o :: made) last

/-- The bound on the actions does not cut a loop short in which every step lowers a cost. -/
theorem loops_run (inv : Daemon → Prop) (cost : Daemon → Nat)
    (hnap : ∀ d, inv d → ¬d.Ended → 0 < d.loop.remaining →
      inv (d.nap interrupt) ∧ cost (d.nap interrupt) < cost d)
    (hturn : ∀ d, inv d → ¬d.Ended → d.loop.remaining = 0 →
      inv (d.turn o) ∧ cost (d.turn o) < cost d)
    {n : Nat} (h : inv d) (hn : cost d < n) :
    ∃ made, Loops o interrupt d made (d.run o interrupt n) := by
  induction n generalizing d with
  | zero => omega
  | succ n ih =>
    by_cases hended : d.Ended
    · rw [run_ended hended]
      exact ⟨[], .ended hended⟩
    · rcases Nat.eq_zero_or_pos d.loop.remaining with hleft | hleft
      · obtain ⟨hinv, hcost⟩ := hturn d h hended hleft
        obtain ⟨made, hmade⟩ := ih hinv (by omega)
        rw [run_turn hended hleft]
        exact ⟨d.emission o :: made, .turn hended hleft hmade⟩
      · obtain ⟨hinv, hcost⟩ := hnap d h hended hleft
        obtain ⟨made, hmade⟩ := ih hinv (by omega)
        rw [run_nap hended hleft]
        exact ⟨made, .nap hended hleft hmade⟩

/-! ## The schedule -/

/-- A daemon that has made `k` reports and sleeps before the next one, which comes at the end of its
interval. -/
structure OnSchedule (o : Options) (interrupt : Interrupt) (k : Nat) (d : Daemon) : Prop where
  interval_eq : d.loop.interval = o.reportInterval * 1000
  once_eq : d.loop.once = o.once
  slept_add : d.slept + d.loop.remaining = (k + 1) * (o.reportInterval * 1000)
  remaining_le : d.loop.remaining ≤ o.reportInterval * 1000
  stop_iff : d.stopRequested = true ↔ ∃ t, interrupt = some t ∧ t ≤ d.slept
  finished_iff : d.loop.finished = true ↔ o.once = true ∧ 0 < k

namespace OnSchedule

variable {k : Nat}

theorem nap (h : OnSchedule o interrupt k d) : OnSchedule o interrupt k (d.nap interrupt) where
  interval_eq := h.interval_eq
  once_eq := h.once_eq
  slept_add := by
    rw [← h.slept_add, slept_nap, loop_nap]
    dsimp only
    omega
  remaining_le := by
    have hle := h.remaining_le
    rw [loop_nap]
    dsimp only
    omega
  stop_iff := by
    refine stopRequested_nap.trans ⟨?_, Or.inr⟩
    rintro (hstop | hstop)
    · obtain ⟨t, ht, hle⟩ := h.stop_iff.mp hstop
      exact ⟨t, ht, hle.trans (Nat.le_add_right _ _)⟩
    · exact hstop
  finished_iff := h.finished_iff

theorem turn (h : OnSchedule o interrupt k d) (hleft : d.loop.remaining = 0) :
    OnSchedule o interrupt (k + 1) (d.turn o) := by
  obtain ⟨hinterval, honce, hslept, -, hstop, -⟩ := h
  constructor
  · rw [loop_turn, ← hinterval]
  · rw [loop_turn, ← honce]
  · rw [slept_turn, loop_turn, Nat.succ_mul, ← hslept, hleft, ← hinterval, Nat.add_zero]
  · rw [loop_turn, ← hinterval]
  · rw [slept_turn, stopRequested_turn, hstop]
  · rw [loop_turn, honce]
    exact (and_iff_left (Nat.succ_pos k)).symm

end OnSchedule

def Reached (o : Options) (interrupt : Interrupt) (k : Nat) : Prop :=
  (o.once = true → k = 0) ∧ ∀ t, interrupt = some t → (k + 1) * (o.reportInterval * 1000) < t

namespace OnSchedule

variable {k : Nat}

theorem not_reached (h : OnSchedule o interrupt k d) (hended : d.Ended) :
    ¬Reached o interrupt k := by
  rintro ⟨honce, hbefore⟩
  rcases hended with hfinished | hstop
  · obtain ⟨hwanted, hpos⟩ := h.finished_iff.mp hfinished
    have hk := honce hwanted
    omega
  · obtain ⟨t, ht, hle⟩ := h.stop_iff.mp hstop
    have hlt := hbefore t ht
    have hslept := h.slept_add
    omega

theorem reached (h : OnSchedule o interrupt k d) (hended : ¬d.Ended)
    (hleft : d.loop.remaining = 0) : Reached o interrupt k := by
  obtain ⟨hfinished, hstop⟩ := not_or.mp hended
  constructor
  · intro hwanted
    by_contra hk
    exact hfinished (h.finished_iff.mpr ⟨hwanted, Nat.pos_of_ne_zero hk⟩)
  · intro t ht
    by_contra hle
    have hslept := h.slept_add
    exact hstop (h.stop_iff.mpr ⟨t, ht, by omega⟩)

end OnSchedule

theorem Loops.times (h : Loops o interrupt d made last) {k count : Nat}
    (hk : OnSchedule o interrupt k d) (hcount : ∀ j, j < count ↔ Reached o interrupt j) :
    made.map (·.slept) =
      (List.range' (k + 1) (count - k)).map (· * (o.reportInterval * 1000)) := by
  -- Along the loop the schedule is kept, with `k` going up by one at each report.
  induction h generalizing k with
  | ended hended =>
    have hle : count ≤ k := not_lt.mp fun hlt => hk.not_reached hended ((hcount k).mp hlt)
    rw [Nat.sub_eq_zero_of_le hle]
    rfl
  | nap _ _ _ ih => exact ih hk.nap
  | @turn d _ made hended hleft _ ih =>
    have hslept : d.slept = (k + 1) * (o.reportInterval * 1000) := by
      rw [← hk.slept_add, hleft, Nat.add_zero]
    have hlt : k < count := (hcount k).mpr (hk.reached hended hleft)
    rw [show count - k = count - (k + 1) + 1 by omega, List.range'_succ, List.map_cons,
      List.map_cons, ih (hk.turn hleft), ← hslept]
    rfl

/-! ## What the loop leaves -/

theorem reportTexts_nap : reportTexts (d.nap interrupt).events = reportTexts d.events := by
  simp only [nap, sleep]
  split
  · exact (reportTexts_append _ _).trans (List.append_nil _)
  · rfl

theorem reportTexts_turn : reportTexts (d.turn o).events =
    reportTexts d.events ++ if o.json then [] else (d.emission o).report.lines := by
  rw [turn_eq]
  simp only [reportTexts_append, plain_reporting.2, List.nil_append]
  cases o.json
  · exact congrArg _ (reportTexts_entries _)
  · rfl

theorem Loops.printed (h : Loops o interrupt d made last) :
    last.printed = d.printed ++ if o.json then made.map (·.report) else [] := by
  induction h with
  | ended => cases o.json <;> exact (List.append_nil _).symm
  | nap _ _ _ ih => exact ih
  | turn _ _ _ ih =>
    rw [ih, turn_eq]
    cases o.json <;> simp [emission]

theorem Loops.reportTexts (h : Loops o interrupt d made last) :
    reportTexts last.events =
      reportTexts d.events ++ if o.json then [] else made.flatMap (·.report.lines) := by
  induction h with
  | ended => cases o.json <;> exact (List.append_nil _).symm
  | nap _ _ _ ih => rw [ih, reportTexts_nap]
  | turn _ _ _ ih =>
    rw [ih, reportTexts_turn, List.flatMap_cons]
    cases o.json <;> simp

theorem Loops.threads (h : Loops o interrupt d made last) :
    last.families.threads = d.families.threads := by
  induction h with
  | ended => rfl
  | nap _ _ _ ih => exact ih
  | turn _ _ _ ih =>
    rw [ih, turn_eq]
    exact threads_reporting

/-- While the loop sleeps the wall clock goes on by as much, and at no other time. -/
theorem Loops.timestamps (h : Loops o interrupt d made last) {start : Int}
    (hclock : d.world.wallClock.milliseconds = start + d.slept) :
    ∀ e ∈ made, e.report.timestamp.milliseconds = start + e.slept := by
  induction h with
  | ended => exact List.forall_mem_nil _
  | nap _ _ _ ih =>
    refine ih ?_
    simp only [Daemon.nap, sleep, hclock]
    omega
  | turn _ _ _ ih =>
    refine List.forall_mem_cons.mpr ⟨?_, ih ?_⟩
    · rw [emission, timestamp_reporting, hclock]
    · rw [turn_eq, plain_reporting.1, hclock]

/-! ## The end of the loop -/

/-- The naps, and a report, before the end of a loop that makes one report. -/
def onceCost (d : Daemon) : Nat :=
  if d.loop.finished then 0 else (d.loop.remaining + 99) / 100 + 1

theorem onceCost_of_not_ended (h : ¬d.Ended) : d.onceCost = (d.loop.remaining + 99) / 100 + 1 :=
  if_neg fun hfinished => h (Or.inl hfinished)

theorem exists_loops_once {k : Nat} (honce : o.once = true) (h : OnSchedule o interrupt k d) :
    ∃ made, Loops o interrupt d made (d.run o interrupt (actionBound o interrupt)) := by
  have hbound : actionBound o interrupt = o.reportInterval * 10 + 3 := if_pos honce
  refine loops_run (·.loop.once = true) onceCost ?_ ?_ (h.once_eq.trans honce) ?_
  · intro d hd hended hleft
    have hcost : (d.nap interrupt).onceCost ≤
        (d.loop.remaining - min d.loop.remaining 100 + 99) / 100 + 1 := by
      unfold onceCost
      split
      · exact Nat.zero_le _
      · exact le_rfl
    rw [onceCost_of_not_ended hended]
    exact ⟨hd, by omega⟩
  · intro d hd hended _
    rw [onceCost_of_not_ended hended]
    simp [onceCost, loop_turn, hd]
  · have hle := h.remaining_le
    unfold onceCost
    split <;> omega

/-- A bound on the actions before a request to stop: between two naps there is one report at
most. -/
def interruptCost (t : Nat) (d : Daemon) : Nat :=
  2 * (t - d.slept) + if d.loop.remaining = 0 then 1 else 0

theorem exists_loops_interrupt {t k : Nat} (hinterval : 1 ≤ o.reportInterval)
    (honce : o.once = false) (h : OnSchedule o (some t) k d) :
    ∃ made, Loops o (some t) d made (d.run o (some t) (actionBound o (some t))) := by
  have hbound : actionBound o (some t) = 2 * t + 3 :=
    if_neg (by rw [honce]; exact Bool.false_ne_true)
  have hbefore {d : Daemon} {k : Nat} (h : OnSchedule o (some t) k d) (hended : ¬d.Ended) :
      d.slept < t := by
    by_contra hle
    exact hended (Or.inr (h.stop_iff.mpr ⟨t, rfl, by omega⟩))
  refine loops_run (fun d => ∃ k, OnSchedule o (some t) k d) (interruptCost t) ?_ ?_ ⟨k, h⟩ ?_
  · rintro d ⟨k, hd⟩ hended hleft
    refine ⟨⟨k, hd.nap⟩, ?_⟩
    have hlt := hbefore hd hended
    rw [interruptCost, interruptCost, slept_nap, ReportLoop.nap]
    split <;> split <;> omega
  · rintro d ⟨k, hd⟩ hended hleft
    refine ⟨⟨k + 1, hd.turn hleft⟩, ?_⟩
    -- The loop only ends because it sleeps again after a report.
    have hpos : ¬d.loop.interval = 0 := by
      rw [hd.interval_eq]
      omega
    rw [interruptCost, interruptCost, slept_turn, loop_turn, if_pos hleft, if_neg hpos]
    omega
  · unfold interruptCost
    split <;> omega

end Daemon

open Daemon

/-! ## Whole runs -/

/-- How many reports a run makes. Times are in milliseconds: a request to stop during the sleep that
reaches `t` comes before the end of all intervals but so many; with `once` one report is enough. -/
inductive Prescribed (o : Options) : Interrupt → Nat → Prop
  | interrupted {t : Nat} (ht : 1 ≤ t) (hinterval : 1 ≤ o.reportInterval) (honce : o.once = false) :
      Prescribed o (some t) (t ⌈/⌉ (1000 * o.reportInterval) - 1)
  | interruptedOnce {t : Nat} (ht : 1 ≤ t) (hinterval : 1 ≤ o.reportInterval)
      (honce : o.once = true) :
      Prescribed o (some t) (min 1 (t ⌈/⌉ (1000 * o.reportInterval) - 1))
  | once (honce : o.once = true) : Prescribed o none 1

variable {o : Options} {interrupt : Interrupt} {w : World} {families : Families} {count : Nat}

theorem lt_ceilDiv_iff {t interval : Nat} (hinterval : 1 ≤ interval) (k : Nat) :
    k < t ⌈/⌉ (1000 * interval) - 1 ↔ (k + 1) * (interval * 1000) < t := by
  rw [Nat.lt_sub_iff_add_lt, ← not_le, ceilDiv_le_iff_le_mul (by omega), not_le,
    Nat.mul_comm interval, Nat.mul_comm (k + 1)]

theorem Prescribed.lt_iff (h : Prescribed o interrupt count) (k : Nat) :
    k < count ↔ Reached o interrupt k := by
  cases h with
  | interrupted _ hinterval honce =>
    rw [lt_ceilDiv_iff hinterval]
    simp [Reached, honce]
  | interruptedOnce _ hinterval honce =>
    rw [lt_min_iff, lt_ceilDiv_iff hinterval, Nat.lt_one_iff]
    simp [Reached, honce]
  | once honce => simp [Reached, honce]

theorem onSchedule_entered (h : Prescribed o interrupt count) :
    OnSchedule o interrupt 0 (entered o w families) where
  interval_eq := rfl
  once_eq := rfl
  slept_add := by
    rw [Nat.zero_add, Nat.one_mul]
    exact Nat.zero_add _
  remaining_le := le_rfl
  stop_iff := by
    refine ⟨nofun, ?_⟩
    rintro ⟨t, rfl, hle⟩
    cases h with
    | interrupted ht | interruptedOnce ht => exact absurd (ht.trans hle) (Nat.not_succ_le_zero 0)
  finished_iff := ⟨nofun, fun h => absurd h.2 (lt_irrefl 0)⟩

theorem exists_loops (w : World) (families : Families) (h : Prescribed o interrupt count) :
    ∃ made, Loops o interrupt (entered o w families) made (left o interrupt w families) := by
  have hentered : OnSchedule o interrupt 0 (entered o w families) := onSchedule_entered h
  cases h with
  | interrupted _ hinterval honce => exact exists_loops_interrupt hinterval honce hentered
  | interruptedOnce _ _ honce => exact exists_loops_once honce hentered
  | once honce => exact exists_loops_once honce hentered

def stopEvents (o : Options) (thread : FamilyThread) : List Event :=
  if SamplerThread.outlastsClock thread.beganAt (Families.intervalOf o.settings thread.family) then
    [.samplerPanicked thread.family.threadName]
  else []

theorem shutDown_events (o : Options) (f : Families) (w : World) :
    (Command.shutDown (World.machine.probe o.procPath) o f w).2.2 =
      .shuttingDown :: (f.threads.flatMap (stopEvents o) ++ [.shutDown]) := by
  have hstop (thread : FamilyThread) :
      (if SamplerThread.outlastsClock thread.beganAt (Families.intervalOf o.settings thread.family)
        then (World.machine.probe o.procPath).log (.samplerPanicked thread.family.threadName)
        else pure ()) w = ((), w, stopEvents o thread) := by
    unfold stopEvents
    split <;> rfl
  have hlog (e : Event) (w : World) :
      (World.machine.probe o.procPath).log e w = ((), w, [e]) := rfl
  simp only [Command.shutDown, Families.stop, Observing.bind_run, hlog, Observing.forM_run hstop,
    List.cons_append, List.nil_append]

/-- A run that has started makes as many reports as are prescribed, each at the end of its interval
and none at any other time. It prints them, or writes them to the log unless it is to be quiet, then
stops the three sampling threads, and ends with 0. -/
theorem run_reports
    (hstart : (Command.start (World.machine.probe o.procPath) o w).1 = some families)
    (hcount : Prescribed o interrupt count) :
    ∃ made : List Emission,
      Loops o interrupt (entered o w families) made (left o interrupt w families) ∧
      made.map (·.slept) = (List.range' 1 count).map (· * (o.reportInterval * 1000)) ∧
      (∀ e ∈ made, e.report.timestamp.milliseconds = w.wallClock.milliseconds + e.slept) ∧
      (run o interrupt w).printed = (if o.json then made.map (·.report) else []) ∧
      reportTexts (run o interrupt w).events =
        (if o.json || o.quiet then [] else made.flatMap (·.report.lines)) ∧
      families.threads.map (·.family) = [.cpu, .paging, .process] ∧
      (run o interrupt w).events = List.filter (Command.isWritten (Command.logLevel o))
        ((left o interrupt w families).events ++
          .shuttingDown :: (families.threads.flatMap (stopEvents o) ++ [.shutDown])) ∧
      (run o interrupt w).exitCode = 0 := by
  have hplain := World.plain_wallClock w.wallClock o.procPath
  obtain ⟨hclock, hquiet⟩ := Command.start_plain hplain o w rfl
  obtain ⟨made, hmade⟩ := exists_loops w families hcount
  have hthreads : (left o interrupt w families).families.threads = families.threads :=
    hmade.threads
  have hending := (Command.shutDown_plain
    (World.plain_wallClock (left o interrupt w families).world.wallClock o.procPath) o
    (left o interrupt w families).families _ rfl).2
  rw [shutDown_events, hthreads] at hending
  have hevents : (run o interrupt w).events = List.filter
      (Command.isWritten (Command.logLevel o)) ((left o interrupt w families).events ++
        .shuttingDown :: (families.threads.flatMap (stopEvents o) ++ [.shutDown])) := by
    rw [run_started interrupt hstart, shutDown_events, hthreads]
  refine ⟨made, hmade, hmade.times (onSchedule_entered hcount) hcount.lt_iff, hmade.timestamps ?_,
    ?_, ?_, Command.start_threads hstart, hevents, ?_⟩
  · rw [entered, hclock]
    exact (Int.add_zero _).symm
  · rw [run_started interrupt hstart]
    exact hmade.printed
  · rw [hevents, reportTexts_written, reportTexts_append, hending, List.append_nil,
      hmade.reportTexts, entered, hquiet, List.nil_append]
    cases o.quiet <;> cases o.json <;> rfl
  · rw [run_started interrupt hstart]

def everySecond : Options := { json := true, reportInterval := 1 }

/-- With an interval of a second, a request to stop after two seconds and a half comes before the
third report. -/
theorem run_reports_interrupted :
    (run everySecond (some 2500) .sparse).printed.map (·.timestamp.milliseconds) =
      [1700001001000, 1700001002000] ∧
    (run everySecond (some 2500) .sparse).exitCode = 0 := by
  have hstarted : (Command.start (World.machine.probe everySecond.procPath) everySecond
      World.sparse).1 ≠ none := by
    rw [Ne, World.start_eq_none_iff rfl]
    exact Bool.eq_false_iff.mp (congrArg Option.isSome World.lack?_sparse)
  obtain ⟨families, hstart⟩ := Option.ne_none_iff_exists'.mp hstarted
  obtain ⟨made, -, htimes, hclock, hprinted, -, -, -, hexit⟩ :=
    run_reports hstart (.interrupted (t := 2500) (by decide) (by decide) rfl)
  have hslept : made.map (·.slept) = [1000, 2000] := htimes.trans (by decide)
  refine ⟨?_, hexit⟩
  calc (run everySecond (some 2500) .sparse).printed.map (·.timestamp.milliseconds)
    _ = made.map fun e => e.report.timestamp.milliseconds := by
      rw [hprinted]
      exact List.map_map ..
    _ = made.map fun e => 1700001000000 + (e.slept : Int) := List.map_congr_left hclock
    _ = (made.map (·.slept)).map fun slept : Nat => 1700001000000 + (slept : Int) := by
      rw [List.map_map]
      rfl
    _ = [1700001001000, 1700001002000] := by rw [hslept]; rfl

end SystemMetrics.Simulation
