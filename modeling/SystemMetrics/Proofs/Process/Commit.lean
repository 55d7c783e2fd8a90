import Mathlib.Data.List.TakeWhile
import SystemMetrics.Proofs.Process.Run

/-!
# A refresh commits everything or nothing

A refresh asks for `stat`, the owner, `statm` and `io` one after the other. The first answer that
does not deliver ends it, and then the process is left as it was: it has vanished, or there is a
fault. If every answer delivers, then each column holds what its own answer said.
-/

namespace SystemMetrics

variable {σ α β : Type}

namespace Observing

variable {ε : Type}

theorem answer_ask (x : Observing σ α) (f : α → ExceptT ε (Observing σ) β) (s : σ) :
    (((liftM x : ExceptT ε (Observing σ) α) >>= f).run s).1 = ((f (x s).1).run (x s).2.1).1 := rfl

theorem state_ask (x : Observing σ α) (f : α → ExceptT ε (Observing σ) β) (s : σ) :
    (((liftM x : ExceptT ε (Observing σ) α) >>= f).run s).2.1 =
      ((f (x s).1).run (x s).2.1).2.1 := rfl

theorem state_ite {c : Prop} [Decidable c] (x y : ExceptT ε (Observing σ) α) (s : σ) :
    ((if c then x else y).run s).2.1 = if c then (x.run s).2.1 else (y.run s).2.1 := by
  split <;> rfl

end Observing

namespace ProcessEntry

open Observing (answer_ask state_ask state_ite)

variable {probe : Probe (Observing σ)} {s : σ} {pid : Nat}

/-! ## What an answer means -/

/-- The failures that mean that the process, or a file of it, has vanished. -/
def Vanished (e : ReadError) : Prop :=
  e.kind = .notFound ∨ e = .os Errno.noProcess ∨ e = .os Errno.badDescriptor ∨
    e = .os Errno.invalid

instance (e : ReadError) : Decidable (Vanished e) := inferInstanceAs (Decidable (_ ∨ _))

theorem isGone_iff (e : ReadError) : e.isGone = true ↔ Vanished e := by
  cases e with
  | os n => simp [ReadError.isGone, Vanished, or_assoc]
  | described kind text => simp [ReadError.isGone, Vanished]

def Blank (text : String) : Prop := ∀ c ∈ text.toList, Text.isBlank c = true

instance (text : String) : Decidable (Blank text) := inferInstanceAs (Decidable (∀ c ∈ _, _))

theorem trim_isEmpty_iff (text : String) :
    (Text.trim text.toList).isEmpty = true ↔ Blank text := by
  rw [Text.trim, Text.trimEnd, Text.trimStart, List.isEmpty_reverse, List.isEmpty_iff,
    List.dropWhile_eq_nil_iff]
  constructor
  · intro h c hc
    rw [← List.takeWhile_append_dropWhile (p := Text.isBlank) (l := text.toList),
      List.mem_append] at hc
    rcases hc with hc | hc
    · exact List.mem_takeWhile_imp hc
    · exact h c (List.mem_reverse.mpr hc)
  · intro h c hc
    exact h c ((List.dropWhile_sublist _).subset (List.mem_reverse.mp hc))

/-- How a failed read of a file of the process ends a refresh. -/
def failure (pid : Nat) (name : String) (e : ReadError) : Interruption :=
  if Vanished e then .gone else .fault (readFault pid name e)

theorem interruption_eq (pid : Nat) (name : String) (e : ReadError) :
    interruption pid name e = failure pid name e := by
  simp only [interruption, failure, isGone_iff]

/-- How the answer for a file that every live process has ends a refresh, if it does. -/
def liveHalt? (pid : Nat) (name : String) : Except ReadError String → Option Interruption
  | .ok text => if Blank text then some .gone else none
  | .error e => some (failure pid name e)

def parseHalt? (parse : String → Except Proc.ParseError α) (call : String) (pid : Nat) :
    Except ReadError String → Option Interruption
  | .ok text => match parse text with
    | .ok _ => none
    | .error e => some (.fault (parseFault call pid e))
  | .error _ => none

def fileHalt? (parse : String → Except Proc.ParseError α) (call : String) (pid : Nat)
    (name : String) (answer : Except ReadError String) : Option Interruption :=
  (liveHalt? pid name answer).or (parseHalt? parse call pid answer)

def ownerHalt? (pid : Nat) : Except ReadError (Nat × Nat) → Option Interruption
  | .ok _ => none
  | .error e => some (failure pid "stat" e)

/-- If `io` was denied, then there are no counters. If it has vanished, then the second answer for
`stat` decides. -/
def ioHalt? (pid : Nat) (statAgain : Except ReadError String) :
    Except ReadError String → Option Interruption
  | .ok _ => none
  | .error e =>
    if e.kind = .permissionDenied then none
    else if Vanished e then liveHalt? pid "stat" statAgain
    else some (.fault (readFault pid "io" e))

/-! ## One read -/

/-- A read ends the refresh as its answer tells, or delivers what it is to deliver. -/
inductive Outcome (halt? : Option Interruption) (Delivers : α → Prop) :
    Except Interruption α → Prop
  | halted {i : Interruption} (h : halt? = some i) : Outcome halt? Delivers (.error i)
  | delivered {a : α} (h : halt? = none) (ha : Delivers a) : Outcome halt? Delivers (.ok a)

variable {halt? halt?' : Option Interruption} {Delivers : α → Prop} {Delivers' : β → Prop}

/-- The first of two reads that does not deliver ends the refresh. -/
theorem Outcome.bind {x : ExceptT Interruption (Observing σ) α}
    {f : α → ExceptT Interruption (Observing σ) β} (hx : Outcome halt? Delivers (x.run s).1)
    (hf : ∀ a, Delivers a → Outcome halt?' Delivers' ((f a).run (x.run s).2.1).1) :
    Outcome (halt?.or halt?') Delivers' ((x >>= f).run s).1 := by
  rw [ExceptT.run_bind, Observing.bind_run]
  cases hread : (x.run s).1 with
  | error i =>
    rw [hread] at hx
    cases hx with
    | halted h =>
      rw [h]
      exact .halted rfl
  | ok a =>
    rw [hread] at hx
    cases hx with
    | delivered h ha =>
      rw [h, Option.none_or]
      exact hf a ha

theorem Outcome.pure {a : α} (ha : Delivers a) :
    Outcome none Delivers ((Pure.pure a : ExceptT Interruption (Observing σ) α).run s).1 :=
  .delivered rfl ha

theorem Outcome.kept (a : α) :
    Outcome none (· = a) ((Pure.pure a : ExceptT Interruption (Observing σ) α).run s).1 :=
  .pure rfl

theorem Outcome.ite {c : Prop} [Decidable c] {x y : ExceptT Interruption (Observing σ) α}
    {Delivers' : α → Prop} (hx : c → Outcome halt? Delivers (x.run s).1)
    (hy : ¬ c → Outcome halt?' Delivers' (y.run s).1) :
    Outcome (if c then halt? else halt?') (fun a => if c then Delivers a else Delivers' a)
      ((if c then x else y).run s).1 := by
  by_cases hc : c
  · simp only [if_pos hc]
    exact hx hc
  · simp only [if_neg hc]
    exact hy hc

theorem readLive_outcome (name : String) :
    Outcome (liveHalt? pid name (probe.processFile pid name s).1)
      (fun text => (probe.processFile pid name s).1 = .ok text)
      ((readLive probe pid name).run s).1 := by
  rw [readLive, answer_ask]
  cases (probe.processFile pid name s).1 with
  | error e => exact .halted (congrArg some (interruption_eq pid _ e).symm)
  | ok text =>
    by_cases hblank : Blank text
    · simp only [liveHalt?, if_pos hblank, if_pos ((trim_isEmpty_iff text).mpr hblank)]
      exact .halted rfl
    · simp only [liveHalt?, if_neg hblank, if_neg (mt (trim_isEmpty_iff text).mp hblank)]
      exact .delivered rfl rfl

theorem readLive_state (name : String) :
    ((readLive probe pid name).run s).2.1 = (probe.processFile pid name s).2.1 := by
  rw [readLive, state_ask]
  cases (probe.processFile pid name s).1 with
  | error e => rfl
  | ok text =>
    dsimp only
    split <;> rfl

def readParsed (probe : Probe (Observing σ)) (pid : Nat) (name : String)
    (parse : String → Except Proc.ParseError α) (call : String) :
    ExceptT Interruption (Observing σ) α := do
  match parse (← readLive probe pid name) with
  | .ok a => return a
  | .error e => throw (.fault (parseFault call pid e))

theorem readStat_eq :
    readStat probe pid = readParsed probe pid "stat" Proc.Stat.parse "parse_proc_stat" := by
  unfold readStat readParsed
  congr 1
  funext text
  cases Proc.Stat.parse text <;> rfl

theorem readStatm_eq :
    readStatm probe pid = readParsed probe pid "statm" Proc.Statm.parse "parse_proc_statm" := by
  unfold readStatm readParsed
  congr 1
  funext text
  cases Proc.Statm.parse text <;> rfl

theorem readParsed_outcome (name : String) (parse : String → Except Proc.ParseError α)
    (call : String) :
    Outcome (fileHalt? parse call pid name (probe.processFile pid name s).1)
      (fun a => ∃ text, (probe.processFile pid name s).1 = .ok text ∧ parse text = .ok a)
      ((readParsed probe pid name parse call).run s).1 := by
  refine (readLive_outcome name).bind fun text hanswer => ?_
  rw [hanswer, parseHalt?]
  cases hparse : parse text with
  | error e => exact .halted rfl
  | ok a => exact .delivered rfl ⟨text, rfl, hparse⟩

theorem readParsed_state (name : String) (parse : String → Except Proc.ParseError α)
    (call : String) :
    ((readParsed probe pid name parse call).run s).2.1 = (probe.processFile pid name s).2.1 := by
  rw [← readLive_state, readParsed, ExceptT.run_bind, Observing.bind_run]
  cases ((readLive probe pid name).run s).1 with
  | error i => rfl
  | ok text =>
    dsimp only
    cases parse text <;> rfl

theorem readOwner_outcome :
    Outcome (ownerHalt? pid (probe.processOwner pid s).1)
      (fun owner => (probe.processOwner pid s).1 = .ok owner)
      ((readOwner probe pid).run s).1 := by
  rw [readOwner, answer_ask]
  cases (probe.processOwner pid s).1 with
  | error e => exact .halted (congrArg some (interruption_eq pid _ e).symm)
  | ok owner => exact .delivered rfl rfl

theorem readOwner_state : ((readOwner probe pid).run s).2.1 = (probe.processOwner pid s).2.1 := by
  rw [readOwner, state_ask]
  cases (probe.processOwner pid s).1 <;> rfl

/-- What an answer for `io` delivers: the counters, if it is a text, and whether it was denied. -/
def IoDelivers (answer : Except ReadError String) (read : Option Proc.Io × Bool) : Prop :=
  read.1 = answer.toOption.map Proc.Io.parse ∧
    (read.2 = true ↔ ∃ e, answer = .error e ∧ e.kind = .permissionDenied)

theorem readIo_outcome :
    Outcome (ioHalt? pid (probe.processFile pid "stat" (probe.processFile pid "io" s).2.1).1
        (probe.processFile pid "io" s).1)
      (IoDelivers (probe.processFile pid "io" s).1) ((readIo probe pid).run s).1 := by
  rw [readIo, answer_ask]
  cases (probe.processFile pid "io" s).1 with
  | ok content => exact .delivered rfl ⟨rfl, nofun, nofun⟩
  | error e =>
    by_cases hdenied : e.kind = .permissionDenied
    · have hdenied' : e.isDenied = true := beq_iff_eq.mpr hdenied
      simp only [ioHalt?, if_pos hdenied, if_pos hdenied']
      exact .delivered rfl ⟨rfl, fun _ => ⟨e, rfl, hdenied⟩, fun _ => rfl⟩
    · have hdenied' : ¬ e.isDenied = true := mt beq_iff_eq.mp hdenied
      have hreadable : IoDelivers (.error e) (none, false) := by
        refine ⟨rfl, nofun, ?_⟩
        rintro ⟨_, ⟨⟩, hkind⟩
        exact absurd hkind hdenied
      by_cases hgone : Vanished e
      · simp only [ioHalt?, if_neg hdenied, if_neg hdenied', if_pos hgone,
          if_pos ((isGone_iff e).mpr hgone)]
        rw [← Option.or_none (o := liveHalt? _ _ _)]
        exact (readLive_outcome "stat").bind fun _ _ => .pure hreadable
      · simp only [ioHalt?, if_neg hdenied, if_neg hdenied', if_neg hgone,
          if_neg (mt (isGone_iff e).mp hgone)]
        exact .halted rfl

/-! ## The reads of a refresh -/

structure Answers where
  stat : Except ReadError String
  owner : Except ReadError (Nat × Nat)
  statm : Except ReadError String
  io : Except ReadError String
  statAgain : Except ReadError String

def isZombie : Except ReadError String → Bool
  | .ok text => match Proc.Stat.parse text with
    | .ok stat => stat.state = 'Z'
    | .error _ => false
  | .error _ => false

/-- The answers in their order; the system moves on with every question. The owner is asked for only
at first, and `statm` only if the process is no zombie. -/
def Answers.of (probe : Probe (Observing σ)) (initial : Bool) (p : ProcessEntry) (s : σ) :
    Answers :=
  let stat := probe.processFile p.pid "stat" s
  let owner := probe.processOwner p.pid stat.2.1
  let beforeStatm := if initial then owner.2.1 else stat.2.1
  let statm := probe.processFile p.pid "statm" beforeStatm
  let beforeIo := if isZombie stat.1 then beforeStatm else statm.2.1
  let io := probe.processFile p.pid "io" beforeIo
  let statAgain := probe.processFile p.pid "stat" io.2.1
  ⟨stat.1, owner.1, statm.1, io.1, statAgain.1⟩

/-- How the first read that does not deliver ends a refresh, if there is one. -/
def Answers.firstHalt? (a : Answers) (initial : Bool) (pid : Nat) : Option Interruption :=
  (fileHalt? Proc.Stat.parse "parse_proc_stat" pid "stat" a.stat).or <|
  (if initial then ownerHalt? pid a.owner else none).or <|
  (if isZombie a.stat then none
    else fileHalt? Proc.Statm.parse "parse_proc_statm" pid "statm" a.statm).or <|
  ioHalt? pid a.statAgain a.io

/-- Each column is from its own answer, or kept if there was no question, and all else is kept. -/
structure Commits (initial : Bool) (a : Answers) (p q : ProcessEntry) : Prop where
  stat : ∃ text, a.stat = .ok text ∧ Proc.Stat.parse text = .ok q.stat
  owner : if initial then a.owner = .ok q.owner else q.owner = p.owner
  statm : if q.stat.state = 'Z' then q.statm = p.statm
    else ∃ text, a.statm = .ok text ∧ Proc.Statm.parse text = .ok q.statm
  io : q.io = a.io.toOption.map Proc.Io.parse
  accessViolation : q.accessViolation = true ↔ ∃ e, a.io = .error e ∧ e.kind = .permissionDenied
  others : q = { p with
    stat := q.stat, owner := q.owner, statm := q.statm, io := q.io
    accessViolation := q.accessViolation }

theorem observe_outcome (probe : Probe (Observing σ)) (initial : Bool) (p : ProcessEntry) (s : σ) :
    Outcome ((Answers.of probe initial p s).firstHalt? initial p.pid)
      (Commits initial (.of probe initial p s) p) ((p.observe probe initial).run s).1 := by
  rw [observe_eq, readStat_eq, readStatm_eq, Answers.firstHalt?]
  refine (readParsed_outcome "stat" _ _).bind fun stat hstat => ?_
  have hzombie : isZombie (probe.processFile p.pid "stat" s).1 = true ↔ stat.state = 'Z' := by
    obtain ⟨text, hanswer, hparse⟩ := hstat
    rw [hanswer, isZombie, hparse]
    exact decide_eq_true_iff
  -- The answers know of the zombie by the text alone, the reads by what was parsed.
  simp only [← hzombie]
  -- Each read meets the system that the one before it left.
  rw [readParsed_state]
  refine (Outcome.ite (fun _ => readOwner_outcome) fun _ => .kept p.owner).bind
    fun owner howner => ?_
  rw [state_ite, readOwner_state]
  refine (Outcome.ite (fun _ => .kept p.statm) fun _ => readParsed_outcome "statm" _ _).bind
    fun statm hstatm => ?_
  rw [state_ite, readParsed_state, ← Option.or_none (o := ioHalt? _ _ _)]
  refine readIo_outcome.bind fun read hread =>
    .pure ⟨hstat, howner, ?_, hread.1, hread.2, rfl⟩
  simp only [← hzombie]
  exact hstatm

theorem refresh_cases (probe : Probe (Observing σ)) (initial : Bool) (p : ProcessEntry) (s : σ) :
    let answers := Answers.of probe initial p s
    (answers.firstHalt? initial p.pid = none ∧ (p.refresh probe initial s).1.1 = .ok true ∧
      Commits initial answers p (p.refresh probe initial s).1.2) ∨
    (answers.firstHalt? initial p.pid ≠ none ∧ (p.refresh probe initial s).1.1 ≠ .ok true ∧
      (p.refresh probe initial s).1.2 = p) := by
  intro answers
  have houtcome := observe_outcome probe initial p s
  rw [refresh_answer]
  generalize ((p.observe probe initial).run s).1 = observed at houtcome
  cases houtcome with
  | delivered hnone hcommits => exact .inl ⟨hnone, rfl, hcommits⟩
  | @halted i hhalt =>
    have hsome : answers.firstHalt? initial p.pid ≠ none :=
      Option.ne_none_iff_exists'.mpr ⟨i, hhalt⟩
    cases i with
    | gone => exact .inr ⟨hsome, nofun, rfl⟩
    | fault f => exact .inr ⟨hsome, nofun, rfl⟩

/-- A refresh commits everything that it reads, or leaves the whole process as it was. It commits if
every answer delivers; otherwise the first answer that does not deliver decides whether the process
has vanished or which fault there is. -/
theorem refresh_all_or_nothing (probe : Probe (Observing σ)) (initial : Bool) (p : ProcessEntry)
    (s : σ) :
    let answers := Answers.of probe initial p s
    let first? := answers.firstHalt? initial p.pid
    let result := (p.refresh probe initial s).1.1
    let left := (p.refresh probe initial s).1.2
    (result ≠ .ok true → left = p) ∧ (result = .ok true → Commits initial answers p left) ∧
    (result = .ok true ↔ first? = none) ∧ (result = .ok false ↔ first? = some .gone) ∧
    ∀ fault, result = .error fault ↔ first? = some (.fault fault) := by
  intro answers first? result left
  have hrefresh : (p.refresh probe initial s).1 = p.commit ((p.observe probe initial).run s).1 := by
    rw [refresh_eq]
    rfl
  have houtcome : Outcome first? (Commits initial answers p) ((p.observe probe initial).run s).1 :=
    observe_outcome probe initial p s
  change (result, left) = _ at hrefresh
  generalize ((p.observe probe initial).run s).1 = observed at hrefresh houtcome
  clear_value result left first?
  cases houtcome with
  | @delivered q hnone hcommits =>
    obtain ⟨rfl, rfl⟩ : result = .ok true ∧ left = q := Prod.mk.inj hrefresh
    rw [hnone]
    exact ⟨fun hresult => absurd rfl hresult, fun _ => hcommits, by simp, by simp, by simp⟩
  | @halted i hhalt =>
    rw [hhalt]
    cases i with
    | gone =>
      obtain ⟨rfl, rfl⟩ : result = .ok false ∧ left = p := Prod.mk.inj hrefresh
      exact ⟨fun _ => rfl, nofun, by simp, by simp, by simp⟩
    | fault f =>
      obtain ⟨rfl, rfl⟩ : result = .error f ∧ left = p := Prod.mk.inj hrefresh
      exact ⟨fun _ => rfl, nofun, by simp, by simp, by simp⟩

/-- A system with a shell that vanishes when so many of its files have been read. -/
def vanishesAfter (reads : Nat) : Probe (Observing Nat) :=
  { ProcessTable.filesOnly [7] fun _ => ProcessTable.shellFile 100 with
    processFile := fun _ name => .answer fun read =>
      (if read < reads then ProcessTable.shellFile 100 name else .error (.os Errno.noProcess),
        read + 1) }

-- The third read is that of `io`, and the fourth is that of `stat` once more.
example : let p := (new (vanishesAfter 0) 7 0 2 0).1
    (∀ reads < 3, (p.refresh (vanishesAfter reads) true 0).1 = (.ok false, p)) ∧
      (p.refresh (vanishesAfter 3) true 0).1.1 = .ok true := by
  decide +kernel

end ProcessEntry

end SystemMetrics
