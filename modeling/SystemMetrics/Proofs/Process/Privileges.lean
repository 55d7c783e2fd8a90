import SystemMetrics.Process.Values
import SystemMetrics.Proofs.Process.Commit

/-!
# Privileged values

Whether `io` was denied and which counters it held are committed together with everything else. So
the values that need a privilege are up to the latest refresh that got through: refreshes that found
the process gone or ended with a fault neither grant nor take the privilege.
-/

namespace SystemMetrics.ProcessEntry

variable {σ : Type} {p : ProcessEntry}

/-- A refresh that was made of a process: what its reads were answered, and what it returned. -/
structure Attempt where
  answers : Answers
  result : Except Fault Bool

def Attempt.of (probe : Probe (Observing σ)) (initial : Bool) (p : ProcessEntry) (s : σ) :
    Attempt :=
  ⟨.of probe initial p s, (p.refresh probe initial s).1.1⟩

/-- The processes that refreshes and sampling calls lead to in any order, with the refreshes, the
latest first. Every refresh meets a system of its own. -/
inductive Attempted : List Attempt → ProcessEntry → Prop
  | new {σ : Type} (probe : Probe (Observing σ)) (s : σ) (pid bootTime history : Nat) :
      Attempted [] (ProcessEntry.new probe pid bootTime history s).1
  | refresh {σ : Type} {attempts : List Attempt} {p : ProcessEntry} (h : Attempted attempts p)
      (probe : Probe (Observing σ)) (initial : Bool) (s : σ) :
      Attempted (.of probe initial p s :: attempts) (p.refresh probe initial s).1.2
  | sample {attempts : List Attempt} {p : ProcessEntry} (h : Attempted attempts p)
      (now : Timestamp) (takenAt : Nat) : Attempted attempts (p.sample now takenAt)
  | updateTimed {attempts : List Attempt} {p : ProcessEntry} (h : Attempted attempts p) :
      Attempted attempts p.updateTimed

variable {attempts : List Attempt}

/-- The latest refresh that got through. -/
def latest? (attempts : List Attempt) : Option Attempt :=
  attempts.find? fun a => a.result = .ok true

def Denied (answer : Except ReadError String) : Prop :=
  ∃ e, answer = .error e ∧ e.kind = .permissionDenied

/-! ## What the latest refresh that got through left -/

theorem latest?_cons_ok {a : Attempt} (h : a.result = .ok true) :
    latest? (a :: attempts) = some a :=
  List.find?_cons_of_pos (decide_eq_true h)

theorem latest?_cons_ne {a : Attempt} (h : a.result ≠ .ok true) :
    latest? (a :: attempts) = latest? attempts :=
  List.find?_cons_of_neg (by simpa using h)

/-- The flag and the counters are those of one refresh, or those of a process that was never
read. -/
structure Follows (last? : Option Attempt) (p : ProcessEntry) : Prop where
  accessViolation : p.accessViolation = true ↔ ∃ a, last? = some a ∧ Denied a.answers.io
  io : p.io = last?.bind fun a => a.answers.io.toOption.map Proc.Io.parse

theorem Attempted.follows (h : Attempted attempts p) : Follows (latest? attempts) p := by
  induction h with
  | new => exact ⟨iff_of_false nofun (by rintro ⟨_, ⟨⟩, _⟩), rfl⟩
  | @refresh _ attempts p _ probe initial s ih =>
    rcases refresh_cases probe initial p s with ⟨-, hresult, hcommits⟩ | ⟨-, hresult, hkept⟩
    · rw [latest?_cons_ok (a := .of probe initial p s) hresult]
      constructor
      · rw [hcommits.accessViolation]
        simp [Attempt.of, Denied]
      · rw [hcommits.io]
        rfl
    · rw [hkept, latest?_cons_ne (a := .of probe initial p s) hresult]
      exact ih
  | sample _ now takenAt ih => exact ⟨ih.accessViolation, ih.io⟩
  | updateTimed _ ih => exact ⟨ih.accessViolation, ih.io⟩

variable {last? : Option Attempt}

/-- A denied `io` leaves no counters. -/
theorem Follows.io_of_denied (h : Follows last? p) (hdenied : p.accessViolation = true) :
    p.io = none := by
  obtain ⟨a, rfl, e, hanswer, -⟩ := h.accessViolation.mp hdenied
  rw [h.io, Option.bind_some, hanswer]
  rfl

theorem Follows.io_isSome (h : Follows last? p) :
    (∃ io, p.io = some io) ↔ ∃ a content, last? = some a ∧ a.answers.io = .ok content := by
  rw [h.io]
  constructor
  · rintro ⟨io, hio⟩
    obtain ⟨a, rfl, ha⟩ := Option.bind_eq_some_iff.mp hio
    cases hanswer : a.answers.io with
    | ok content => exact ⟨a, content, rfl, hanswer⟩
    | error e =>
      rw [hanswer] at ha
      cases ha
  · rintro ⟨a, content, rfl, hanswer⟩
    rw [Option.bind_some, hanswer]
    exact ⟨_, rfl⟩

/-! ## What needs the privilege -/

theorem checkRootAccess_of_error {fault : Fault} (h : p.checkRootAccess = .error fault) :
    p.accessViolation = true ∧ fault.isAccessViolation = true := by
  unfold checkRootAccess at h
  split at h
  · cases h
    exact ⟨‹_›, rfl⟩
  · cases h

theorem checkRootAccess_of_denied (h : p.accessViolation = true) :
    ∃ fault, p.checkRootAccess = .error fault :=
  ⟨_, if_pos h⟩

theorem callRate_of_error {fault : Fault} (h : p.checkRootAccess = .error fault) (calls : Nat) :
    p.callRate calls = .error fault := by
  rw [callRate, h]
  rfl

theorem callRate_of_ok (h : p.checkRootAccess = .ok ()) (calls : Nat) :
    p.callRate calls = .ok (p.io.map fun _ => perSecond calls p.timed.ioRealMs) := by
  rw [callRate, h]
  rfl

theorem executable?_of_error {fault : Fault} (h : p.checkRootAccess = .error fault)
    (probe : Probe (Observing σ)) : p.executable? probe = pure (.error fault) := by
  rw [executable?, h]

theorem sample_io_of_none (h : p.io = none) (now : Timestamp) (takenAt : Nat) :
    (p.sample now takenAt).histories.ioRealMs = p.histories.ioRealMs ∧
      (p.sample now takenAt).histories.readCalls = p.histories.readCalls ∧
      (p.sample now takenAt).histories.writeCalls = p.histories.writeCalls := by
  simp [sample, h]

/-- The privileged values follow the latest refresh that got through. The privilege lacks exactly if
the reading of `io` was denied then. While it lacks, the three rates and the executed file end with
the same access violation, and sampling leaves the histories of `io` as they are. Otherwise the
three rates are there if `io` was read then, and all three are missing if it was not. -/
theorem Attempted.privileges_follow (h : Attempted attempts p) :
    ((∃ fault, p.checkRootAccess = .error fault) ↔
      ∃ a, latest? attempts = some a ∧ Denied a.answers.io) ∧
    (∀ fault, p.checkRootAccess = .error fault → fault.isAccessViolation = true ∧
      p.blockReadsPerSecond = .error fault ∧ p.blockWritesPerSecond = .error fault ∧
      p.blockTransfersPerSecond = .error fault ∧
      (∀ {σ : Type} (probe : Probe (Observing σ)), p.executable? probe = pure (.error fault)) ∧
      ∀ now takenAt,
        (p.sample now takenAt).histories.ioRealMs = p.histories.ioRealMs ∧
        (p.sample now takenAt).histories.readCalls = p.histories.readCalls ∧
        (p.sample now takenAt).histories.writeCalls = p.histories.writeCalls) ∧
    (p.checkRootAccess = .ok () →
      ((∃ a content, latest? attempts = some a ∧ a.answers.io = .ok content) ∧
        ∃ reads writes transfers, p.blockReadsPerSecond = .ok (some reads) ∧
          p.blockWritesPerSecond = .ok (some writes) ∧
          p.blockTransfersPerSecond = .ok (some transfers)) ∨
      ((¬ ∃ a content, latest? attempts = some a ∧ a.answers.io = .ok content) ∧
        p.blockReadsPerSecond = .ok none ∧ p.blockWritesPerSecond = .ok none ∧
        p.blockTransfersPerSecond = .ok none)) := by
  have hfollows := h.follows
  rw [← hfollows.accessViolation, ← hfollows.io_isSome]
  refine ⟨⟨?_, checkRootAccess_of_denied⟩, fun fault hfault => ?_, fun hok => ?_⟩
  · rintro ⟨fault, hfault⟩
    exact (checkRootAccess_of_error hfault).1
  · obtain ⟨hdenied, hviolation⟩ := checkRootAccess_of_error hfault
    exact ⟨hviolation, callRate_of_error hfault _, callRate_of_error hfault _,
      callRate_of_error hfault _, executable?_of_error hfault,
      sample_io_of_none (hfollows.io_of_denied hdenied)⟩
  · have hrate := callRate_of_ok hok
    cases hio : p.io with
    | some io =>
      rw [hio] at hrate
      exact .inl ⟨⟨io, rfl⟩, _, _, _, hrate _, hrate _, hrate _⟩
    | none =>
      rw [hio] at hrate
      exact .inr ⟨nofun, hrate _, hrate _, hrate _⟩

/-- A shell after one more refresh, which meets the given files and nothing else. -/
def meet (p : ProcessEntry) (file : String → Except ReadError String) : ProcessEntry :=
  (p.refresh (ProcessTable.filesOnly [7] fun _ => file : Probe (Observing Unit)) false ()).1.2

/-- A shell that was read, then denied its `io`, then vanished, and was malformed in the end. -/
def lockedShell : ProcessEntry :=
  let denied (name : String) : Except ReadError String :=
    if name = "io" then .error (.os Errno.access) else ProcessTable.shellFile 100 name
  let first := (new (ProcessTable.filesOnly [7] fun _ => denied : Probe (Observing Unit))
    7 1000 2 ()).1
  (((first.meet (ProcessTable.shellFile 100)).meet denied).meet
    fun name => .error (.described .notFound name)).meet fun _ => .ok "no columns"

/-- The privilege stays away through the two refreshes that did not get through. -/
theorem privileges_follow_locked : ∃ attempts, Attempted attempts lockedShell ∧
    attempts.map (·.result.toOption) = [none, some false, some true, some true] ∧
    (∃ a, latest? attempts = some a ∧ Denied a.answers.io) ∧
    ∃ fault, lockedShell.checkRootAccess = .error fault ∧ fault.isAccessViolation = true ∧
      lockedShell.blockReadsPerSecond = .error fault := by
  have hmeet {attempts p} (h : Attempted attempts p) (file : String → Except ReadError String) :
      Attempted (.of (ProcessTable.filesOnly [7] fun _ => file) false p () :: attempts)
        (p.meet file) :=
    h.refresh _ false ()
  have hrun : Attempted _ lockedShell := hmeet (hmeet (hmeet (hmeet (Attempted.new _ () 7 1000 2)
    _) _) _) _
  obtain ⟨hlacks, hfails, -⟩ := Attempted.privileges_follow hrun
  have hflag : lockedShell.accessViolation = true := by decide +kernel
  obtain ⟨fault, hfault⟩ := checkRootAccess_of_denied hflag
  obtain ⟨hviolation, hreads, -⟩ := hfails fault hfault
  exact ⟨_, hrun, by decide +kernel, hlacks.mp ⟨fault, hfault⟩, fault, hfault, hviolation, hreads⟩

end SystemMetrics.ProcessEntry
