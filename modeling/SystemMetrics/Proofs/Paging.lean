import SystemMetrics.Proofs.Failures
import SystemMetrics.Proofs.Proc.Keys
import SystemMetrics.Proofs.Retained
import SystemMetrics.Proofs.Seconds

/-!
# Paging rates

A sampling pass over `vmstat` feeds both paging histories or neither of them, so the two always hold
the counters of the same readings. A rate compares the newest of these with the oldest one, and
divides by the readings in between and by the interval.
-/

namespace SystemMetrics

namespace Proc.PagingCounters

open Text

variable {content : String}

/-! ## What a text says -/

/-- The value on a line that begins with a key. -/
def valueOn? (key line : List Char) : Option (List Char) :=
  match words line with
  | first :: value :: _ => if first = key then some value else none
  | _ => none

/-- The number on the last line that begins with a key. A value that is not a number hides the ones
before it. -/
def lastNumber? (key content : String) : Option Nat :=
  ((lines content.toList).filterMap (valueOn? key.toList)).getLast?.bind natural64?

theorem lastNumber?_lt {key : String} {n : Nat} (h : lastNumber? key content = some n) :
    n < 2 ^ 64 := by
  obtain ⟨value, -, hvalue⟩ := Option.bind_eq_some_iff.mp h
  exact ((natural?_eq_some_iff (by decide)).mp hvalue).2

theorem addLine_eq (found : Found) (line : List Char) :
    found.addLine line =
      ⟨((valueOn? "pgpgin".toList line).map natural64?).getD found.pagesIn,
        ((valueOn? "pgpgout".toList line).map natural64?).getD found.pagesOut⟩ := by
  have hkeys : "pgpgin".toList ≠ "pgpgout".toList := by decide
  unfold Found.addLine valueOn?
  rcases words line with _ | ⟨first, _ | ⟨value, rest⟩⟩
  · rfl
  · rfl
  · by_cases hin : first = "pgpgin".toList
    · have hout : first ≠ "pgpgout".toList := hin ▸ hkeys
      simp only [if_pos hin, if_neg hout]
      rfl
    · by_cases hout : first = "pgpgout".toList
      · simp only [if_neg hin, if_pos hout]
        rfl
      · simp only [if_neg hin, if_neg hout]
        rfl

/-- The last line with a key decides. -/
theorem foldl_addLine (ls : List (List Char)) (found : Found) :
    ls.foldl Found.addLine found =
      ⟨((ls.filterMap (valueOn? "pgpgin".toList)).getLast?.map natural64?).getD found.pagesIn,
        ((ls.filterMap (valueOn? "pgpgout".toList)).getLast?.map natural64?).getD
          found.pagesOut⟩ := by
  have hin := foldl_last Found.pagesIn
    (fun found line => congrArg Found.pagesIn (addLine_eq found line)) ls found
  have hout := foldl_last Found.pagesOut
    (fun found line => congrArg Found.pagesOut (addLine_eq found line)) ls found
  exact congr (congrArg Found.mk hin) hout

theorem parse_eq (content : String) :
    parse content = match lastNumber? "pgpgin" content, lastNumber? "pgpgout" content with
      | some pagesIn, some pagesOut => .ok { pagesIn, pagesOut }
      | _, _ => .error .noPagingCounters := by
  have hlast (last : Option (List Char)) :
      (last.map natural64?).getD none = last.bind natural64? := by
    cases last <;> rfl
  rw [parse, foldl_addLine, hlast, hlast, ← lastNumber?, ← lastNumber?]
  cases lastNumber? "pgpgin" content <;> cases lastNumber? "pgpgout" content <;> rfl

/-- A text has counters exactly if the last line with either key has a number. -/
theorem toOption_parse (content : String) :
    (parse content).toOption = do
      let pagesIn ← lastNumber? "pgpgin" content
      let pagesOut ← lastNumber? "pgpgout" content
      return { pagesIn, pagesOut } := by
  rw [parse_eq]
  cases lastNumber? "pgpgin" content <;> cases lastNumber? "pgpgout" content <;> rfl

end Proc.PagingCounters

namespace Memory

open Proc (PagingCounters)
open Proc.PagingCounters (lastNumber? lastNumber?_lt toOption_parse)

variable {σ : Type} {cadence : Cadence} {mem : Memory}

/-! ## Runs of passes -/

/-- The counters that a pass finds, and when. -/
structure PagingReading where
  pagesIn : Nat
  pagesOut : Nat
  takenAt : Nat
  deriving DecidableEq, Repr

/-- What a sampling pass meets: the answer to its question for `vmstat`, and the time after that. -/
structure PagingPass where
  answer : Except Fault String
  takenAt : Nat

def PagingPass.of (probe : Probe (Observing σ)) (s : σ) : PagingPass :=
  ⟨(probe.vmStat s).1, (probe.monotonicClock (probe.vmStat s).2.1).1⟩

/-- What a pass yields: the counters of a text that has both of them. -/
def PagingPass.yield? (pass : PagingPass) : Option PagingReading := do
  let content ← pass.answer.toOption
  let pagesIn ← lastNumber? "pgpgin" content
  let pagesOut ← lastNumber? "pgpgout" content
  return { pagesIn, pagesOut, takenAt := pass.takenAt }

/-- The memory that updates and sampling passes lead to in any order, with the passes, the latest
first. Every one of them meets a system of its own. -/
inductive Run (cadence : Cadence) : List PagingPass → Memory → Prop
  | new : Run cadence [] (.new cadence)
  | update {σ : Type} {passes : List PagingPass} {mem : Memory} (h : Run cadence passes mem)
      (probe : Probe (Observing σ)) (s : σ) : Run cadence passes (mem.update probe s).1.2
  | sample {σ : Type} {passes : List PagingPass} {mem : Memory} (h : Run cadence passes mem)
      (probe : Probe (Observing σ)) (s : σ) :
      Run cadence (.of probe s :: passes) (mem.samplePaging probe s).1.2
  | background {σ : Type} {passes : List PagingPass} {mem : Memory} (h : Run cadence passes mem)
      (probe : Probe (Observing σ)) (s : σ) :
      Run cadence (.of probe s :: passes) (mem.backgroundPass probe s).1

theorem PagingPass.yield?_lt {pass : PagingPass} {reading : PagingReading}
    (h : pass.yield? = some reading) : reading.pagesIn < 2 ^ 64 ∧ reading.pagesOut < 2 ^ 64 := by
  obtain ⟨content, -, h⟩ := Option.bind_eq_some_iff.mp h
  obtain ⟨pagesIn, hin, h⟩ := Option.bind_eq_some_iff.mp h
  obtain ⟨pagesOut, hout, h⟩ := Option.bind_eq_some_iff.mp h
  cases h
  exact ⟨lastNumber?_lt hin, lastNumber?_lt hout⟩

theorem paging_update (probe : Probe (Observing σ)) (mem : Memory) (s : σ) :
    (mem.update probe s).1.2.paging = mem.paging := by
  cases hinfo : (probe.memInfo s).1 with
  | error fault => rw [update_error hinfo]
  | ok content => rw [update_ok hinfo]

theorem backgroundPass_eq (probe : Probe (Observing σ)) (mem : Memory) (s : σ) :
    (mem.backgroundPass probe s).1 = (mem.samplePaging probe s).1.2 := by
  rw [backgroundPass, Observing.bind_run]
  obtain ⟨⟨result, mem'⟩, s', events⟩ := mem.samplePaging probe s
  cases result <;> rfl

theorem PagingPass.yield?_eq (pass : PagingPass) :
    pass.yield? = pass.answer.toOption.bind fun content =>
      (PagingCounters.parse content).toOption.map fun counters =>
        ⟨counters.pagesIn, counters.pagesOut, pass.takenAt⟩ := by
  obtain ⟨answer, takenAt⟩ := pass
  cases answer with
  | error fault => rfl
  | ok content =>
    rw [yield?, Except.toOption, Option.bind_some, toOption_parse]
    cases hin : lastNumber? "pgpgin" content <;> cases hout : lastNumber? "pgpgout" content <;>
      simp [hin, hout]

/-- A pass records both counters or nothing. -/
theorem paging_samplePaging (probe : Probe (Observing σ)) (mem : Memory) (s : σ) :
    (mem.samplePaging probe s).1.2.paging =
      match (PagingPass.of probe s).yield? with
      | none => mem.paging
      | some ⟨pagesIn, pagesOut, takenAt⟩ => mem.paging.record ⟨pagesIn, pagesOut⟩ takenAt := by
  rw [PagingPass.yield?_eq]
  simp only [samplePaging, Paging.sample, Paging.read, Observing.bind_run, PagingPass.of]
  cases (probe.vmStat s).1 with
  | error fault => rfl
  | ok content =>
    dsimp only [Except.toOption, Option.bind_some]
    cases PagingCounters.parse content <;> rfl

/-! ## What the histories hold -/

/-- Both histories were fed by the same readings. -/
structure Fed (cadence : Cadence) (fed : List PagingReading) (p : Paging) : Prop where
  interval_eq : p.interval = cadence.interval
  reads : p.reads.Retains cadence.history
    (fed.map fun reading => ⟨reading.pagesIn, reading.takenAt⟩)
  writes : p.writes.Retains cadence.history
    (fed.map fun reading => ⟨reading.pagesOut, reading.takenAt⟩)

theorem fed_new (cadence : Cadence) : Fed cadence [] (.new cadence) :=
  ⟨rfl, History.retains_new _, History.retains_new _⟩

theorem Fed.record {fed : List PagingReading} {p : Paging} (h : Fed cadence fed p)
    (reading : PagingReading) :
    Fed cadence (reading :: fed) (p.record ⟨reading.pagesIn, reading.pagesOut⟩ reading.takenAt) :=
  ⟨h.interval_eq, h.reads.add _ _, h.writes.add _ _⟩

theorem Fed.samplePaging {passes : List PagingPass}
    (h : Fed cadence (passes.filterMap PagingPass.yield?) mem.paging)
    (probe : Probe (Observing σ)) (s : σ) :
    Fed cadence ((.of probe s :: passes).filterMap PagingPass.yield?)
      (mem.samplePaging probe s).1.2.paging := by
  rw [paging_samplePaging]
  cases hyield : (PagingPass.of probe s).yield? with
  | none =>
    rw [List.filterMap_cons_none hyield]
    exact h
  | some reading =>
    rw [List.filterMap_cons_some hyield]
    exact h.record reading

theorem Run.fed {passes : List PagingPass} (h : Run cadence passes mem) :
    Fed cadence (passes.filterMap PagingPass.yield?) mem.paging := by
  induction h with
  | new => exact fed_new cadence
  | update _ probe s ih =>
    rw [paging_update]
    exact ih
  | sample _ probe s ih => exact ih.samplePaging probe s
  | background _ probe s ih =>
    rw [backgroundPass_eq]
    exact ih.samplePaging probe s

/-! ## Rates -/

theorem rate_eq {α : Type} {p : Paging} {h : History} {capacity : Nat} {calls : List α}
    {f takenAt : α → Nat} (hrange : p.interval.nanoseconds < 2 ^ 64 * 10 ^ 9)
    (hr : h.Retains capacity (calls.map fun c => (⟨f c, takenAt c⟩ : Sample))) :
    p.rate h =
      if p.interval.nanoseconds = 0 ∨ (calls.take (max capacity 1)).length < 2 then 0.0
      else counterToFloat (History.growth f (calls.take (max capacity 1))) /
        counterToFloat ((calls.take (max capacity 1)).length - 1) / p.interval.toSeconds := by
  have hsteps : h.steps h.capacity = (calls.take (max capacity 1)).length - 1 := by
    rw [History.steps, hr.samples_eq, hr.capacity_eq, ← List.map_take, List.length_map,
      List.length_take]
    omega
  rw [Paging.rate, History.averageDelta, hr.delta_capacity, hsteps]
  by_cases hzero : p.interval.nanoseconds = 0
  · rw [if_pos ((Duration.toSeconds_le_zero_iff hrange).mpr hzero), if_pos (Or.inl hzero)]
  · rw [if_neg (mt (Duration.toSeconds_le_zero_iff hrange).mp hzero)]
    by_cases hfew : (calls.take (max capacity 1)).length < 2
    · rw [if_pos (Or.inr hfew), if_pos (by omega)]
      exact Duration.zero_div_toSeconds hrange (Nat.pos_of_ne_zero hzero)
    · rw [if_neg (by omega), if_neg (not_or.mpr ⟨hzero, hfew⟩)]

/-- The paging histories hold the counters of the latest passes that yielded both, and either rate
is the growth over all of these per step and second. The counters have 64 bits, so no conversion
wraps around, and so have the whole seconds of the interval. -/
theorem Run.rates_matched {passes : List PagingPass}
    (hrange : cadence.interval.nanoseconds < 2 ^ 64 * 10 ^ 9) (h : Run cadence passes mem) :
    let kept := (passes.filterMap PagingPass.yield?).take (max cadence.history 1)
    (∀ reading ∈ kept, reading.pagesIn < 2 ^ 64 ∧ reading.pagesOut < 2 ^ 64) ∧
    mem.paging.reads.values = (kept.map (·.pagesIn)).reverse ∧
    mem.paging.writes.values = (kept.map (·.pagesOut)).reverse ∧
    (cadence.interval.nanoseconds = 0 ∨ kept.length < 2 →
      mem.pageReads = 0.0 ∧ mem.pageWrites = 0.0) ∧
    (cadence.interval.nanoseconds ≠ 0 → 2 ≤ kept.length → ∀ newest oldest,
      kept.head? = some newest → kept.getLast? = some oldest →
      mem.pageReads = counterToFloat (newest.pagesIn - oldest.pagesIn) /
          counterToFloat (kept.length - 1) / cadence.interval.toSeconds ∧
        mem.pageWrites = counterToFloat (newest.pagesOut - oldest.pagesOut) /
          counterToFloat (kept.length - 1) / cadence.interval.toSeconds) := by
  intro kept
  obtain ⟨hinterval, hreads, hwrites⟩ := h.fed
  have hrange' : mem.paging.interval.nanoseconds < 2 ^ 64 * 10 ^ 9 := hinterval.symm ▸ hrange
  have hwords : ∀ reading ∈ kept, reading.pagesIn < 2 ^ 64 ∧ reading.pagesOut < 2 ^ 64 := by
    intro reading hreading
    obtain ⟨pass, -, hyield⟩ := List.mem_filterMap.mp (List.mem_of_mem_take hreading)
    exact PagingPass.yield?_lt hyield
  refine ⟨hwords, hreads.values_eq, hwrites.values_eq, ?_⟩
  rw [pageReads, pageWrites, rate_eq hrange' hreads, rate_eq hrange' hwrites, hinterval]
  refine ⟨fun hnone => ⟨if_pos hnone, if_pos hnone⟩, ?_⟩
  intro hzero hmany newest oldest hnewest holdest
  have hsome : ¬ (cadence.interval.nanoseconds = 0 ∨ kept.length < 2) := by omega
  have hgrowth (f : PagingReading → Nat) : History.growth f kept = f newest - f oldest := by
    rw [History.growth, hnewest, holdest]
    rfl
  rw [if_neg hsome, if_neg hsome, ← hgrowth (·.pagesIn), ← hgrowth (·.pagesOut)]
  exact ⟨rfl, rfl⟩

/-- A system with the text of `vmstat` and nothing else. -/
def vmstatOnly (answer : Except Fault String) : Probe (Observing Unit) :=
  { ProcessTable.filesOnly [] fun _ _ => .error .notText with vmStat := return answer }

/-- Of five passes only the first and the last yield both counters: the others find no text, a
later line whose value is no number, or one of the counters alone. -/
theorem rates_matched_failures : ∃ passes mem, Run ⟨.ofSeconds 10, 2⟩ passes mem ∧
    passes.map (fun pass => pass.yield?.isSome) = [true, false, false, false, true] ∧
    mem.paging.reads.values = [1000, 1050] ∧ mem.paging.writes.values = [400, 420] ∧
    mem.pageReads = 5.0 ∧ mem.pageWrites = 2.0 := by
  have hpass {passes mem} (h : Run ⟨.ofSeconds 10, 2⟩ passes mem) (answer : Except Fault String) :
      Run ⟨.ofSeconds 10, 2⟩ (⟨answer, 0⟩ :: passes)
        (mem.samplePaging (vmstatOnly answer) ()).1.2 :=
    h.sample (vmstatOnly answer) ()
  have hfirst := hpass .new (.ok "pgpgin 1000\npgpgout 400\n")
  have hfailed := hpass (hpass (hpass hfirst (.error (.unsupported "vmstat")))
    (.ok "pgpgin 1010\npgpgout 410\npgpgin x\n")) (.ok "pgpgin 1020\n")
  have hrun := hpass hfailed (.ok "pgpgin 1050\npgpgout 420\n")
  obtain ⟨-, hreads, hwrites, -, hrates⟩ := hrun.rates_matched (by decide)
  obtain ⟨hpageReads, hpageWrites⟩ := hrates (by decide) (by decide +kernel) ⟨1050, 420, 0⟩
    ⟨1000, 400, 0⟩ (by decide +kernel) (by decide +kernel)
  refine ⟨_, _, hrun, by decide +kernel, hreads.trans ?_, hwrites.trans ?_, hpageReads.trans ?_,
    hpageWrites.trans ?_⟩
  all_goals decide +kernel

end Memory

end SystemMetrics
