import SystemMetrics.Proofs.Proc.Keys
import SystemMetrics.Proofs.Process.Commit

/-!
# Counters of malformed texts

A refresh that gets any text for `io` commits counters, if the reads before it delivered. A counter
that the text does not tell is committed as zero, as if the process had never made such a call.
-/

namespace SystemMetrics

/-- The counter of a key as it is committed: what the text tells, or zero if it tells nothing. -/
def Proc.Io.CountedAs (content key : String) (n : Nat) : Prop :=
  Tells content key n ∨ (∀ m, ¬ Tells content key m) ∧ n = 0

namespace ProcessEntry

open Proc (Io)

variable {σ : Type} {probe : Probe (Observing σ)} {initial : Bool} {p : ProcessEntry} {s : σ}

/-- How the first read before that of `io` that does not deliver ends a refresh. -/
def Answers.haltBeforeIo? (a : Answers) (initial : Bool) (pid : Nat) : Option Interruption :=
  (fileHalt? Proc.Stat.parse "parse_proc_stat" pid "stat" a.stat).or <|
  (if initial then ownerHalt? pid a.owner else none).or <|
  if isZombie a.stat then none
    else fileHalt? Proc.Statm.parse "parse_proc_statm" pid "statm" a.statm

theorem Answers.firstHalt?_of_io {a : Answers} {content : String} (h : a.io = .ok content)
    (initial : Bool) (pid : Nat) : a.firstHalt? initial pid = a.haltBeforeIo? initial pid := by
  rw [firstHalt?, h, ioHalt?, Option.or_none, haltBeforeIo?]

theorem Commits.countedAs {answers : Answers} {q : ProcessEntry} {content : String}
    (h : Commits initial answers p q) (hio : answers.io = .ok content) :
    ∃ io, q.io = some io ∧
      Io.CountedAs content "syscr" io.readCalls ∧ Io.CountedAs content "syscw" io.writeCalls := by
  have hcounters := h.io
  rw [hio, Except.toOption, Option.map_some, Io.parse_eq] at hcounters
  exact ⟨_, hcounters, Io.counter_spec content "syscr", Io.counter_spec content "syscw"⟩

/-- Committed counters are what the text for `io` tells, or zero where it tells nothing; and a text
that tells nothing is no obstacle to a refresh. -/
theorem refresh_io_of_any_text (probe : Probe (Observing σ)) (initial : Bool) (p : ProcessEntry)
    (s : σ) :
    let answers := Answers.of probe initial p s
    let result := (p.refresh probe initial s).1
    (∀ io, result.1 = .ok true → result.2.io = some io →
      ∃ content, answers.io = .ok content ∧
        Io.CountedAs content "syscr" io.readCalls ∧ Io.CountedAs content "syscw" io.writeCalls) ∧
    ∀ content, answers.io = .ok content →
      (result.1 = .ok true ↔ answers.haltBeforeIo? initial p.pid = none) ∧
      (result.1 ≠ .ok true → result.2 = p) ∧
      (result.1 = .ok true → ∃ io, result.2.io = some io ∧
        Io.CountedAs content "syscr" io.readCalls ∧
        Io.CountedAs content "syscw" io.writeCalls) := by
  intro answers result
  have hcases := refresh_cases probe initial p s
  refine ⟨fun io hresult hio => ?_, fun content hcontent => ?_⟩
  · rcases hcases with ⟨-, -, hcommits⟩ | ⟨-, hresult', -⟩
    · cases hanswer : answers.io with
      | error e =>
        have hnone := hcommits.io
        rw [hanswer] at hnone
        exact nomatch hio.symm.trans hnone
      | ok content =>
        obtain ⟨io', hio', hcounted⟩ := hcommits.countedAs hanswer
        obtain rfl := Option.some.inj (hio.symm.trans hio')
        exact ⟨content, rfl, hcounted⟩
    · exact absurd hresult hresult'
  · rw [← Answers.firstHalt?_of_io hcontent]
    rcases hcases with ⟨hnone, hresult, hcommits⟩ | ⟨hsome, hresult, hkept⟩
    · exact ⟨iff_of_true hresult hnone, fun h => absurd hresult h,
        fun _ => hcommits.countedAs hcontent⟩
    · exact ⟨iff_of_false hresult hsome, fun _ => hkept, fun h => absurd h hresult⟩

/-- A shell whose `io` ends after the read calls. -/
def truncatedShell : Probe (Observing Unit) :=
  ProcessTable.filesOnly [7] fun _ name =>
    if name = "io" then .ok "rchar: 1000\nwchar: 500\nsyscr: 100\n"
    else ProcessTable.shellFile 100 name

theorem refresh_io_of_truncated_text :
    let p := (new truncatedShell 7 1000 2 ()).1
    let result := (p.refresh truncatedShell true ()).1
    result.1 = .ok true ∧ result.2.io = some ⟨100, 0⟩ ∧
      ∀ n, ¬ Io.Tells "rchar: 1000\nwchar: 500\nsyscr: 100\n" "syscw" n := by
  intro p result
  have hresult : result.1 = .ok true := by decide +kernel
  obtain ⟨-, -, hcounted⟩ := (refresh_io_of_any_text truncatedShell true p ()).2 _ rfl
  obtain ⟨io, hio, -, -⟩ := hcounted hresult
  have hcounters : result.2.io = some ⟨100, 0⟩ := by decide +kernel
  obtain rfl := Option.some.inj (hio.symm.trans hcounters)
  refine ⟨hresult, hcounters, ?_⟩
  rintro n ⟨value, hvalue, -⟩
  have hnone : Io.lastValue? "syscw" "rchar: 1000\nwchar: 500\nsyscr: 100\n" = none := by
    decide +kernel
  exact nomatch hnone.symm.trans hvalue

end ProcessEntry

end SystemMetrics
