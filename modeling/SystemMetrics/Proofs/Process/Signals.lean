import SystemMetrics.Proofs.Process.Run
import SystemMetrics.Simulation.World

/-!
# Signals by name

A signal by name goes to the processes of that name in ascending order. The first of them that
refuses it ends the round, and the processes after that one are not signalled.
-/

namespace SystemMetrics

/-- A call of `kill` and its error number. -/
structure SignalCall where
  pid : Nat
  signal : Int
  errno : Int
  deriving DecidableEq, Repr

namespace SignalCall

/-- A process that is gone does not refuse a signal. -/
def Refused (c : SignalCall) : Prop := c.errno ≠ 0 ∧ c.errno ≠ Errno.noProcess

instance (c : SignalCall) : Decidable c.Refused := inferInstanceAs (Decidable (_ ∧ _))

def delivered (c : SignalCall) : Bool := c.errno = 0

def fault (c : SignalCall) : Fault :=
  if c.errno = Errno.permission then
    .accessViolation ("not permitted to signal pid " ++ toString c.pid)
  else .osCall "kill" c.errno

def answer (c : SignalCall) : Except Fault Bool :=
  if c.Refused then .error c.fault else .ok c.delivered

theorem answer_of_refused {c : SignalCall} (h : c.Refused) : c.answer = .error c.fault := if_pos h

theorem answer_of_not_refused {c : SignalCall} (h : ¬ c.Refused) : c.answer = .ok c.delivered :=
  if_neg h

end SignalCall

namespace Machine

variable {σ : Type} {machine : Machine (Observing σ)} {calls : σ → List SignalCall}

/-- Every call of `kill` is put on record. -/
def Records (machine : Machine (Observing σ)) (calls : σ → List SignalCall) : Prop :=
  ∀ pid signal s, calls (machine.kill pid signal s).2.1 =
    calls s ++ [⟨pid, signal, (machine.kill pid signal s).1⟩]

theorem sendSignal_of_gt (machine : Machine (Observing σ)) {pid : Nat} (h : pid > maxSignalPid)
    (signal : Int) (s : σ) : machine.sendSignal pid signal s = (.ok false, s, []) := by
  rw [sendSignal, if_pos h]
  rfl

theorem sendSignal_of_le {pid : Nat} (h : ¬ pid > maxSignalPid) (hcalls : machine.Records calls)
    (signal : Int) (s : σ) : ∃ c : SignalCall, c.pid = pid ∧ c.signal = signal ∧
      (machine.sendSignal pid signal s).1 = c.answer ∧
      calls (machine.sendSignal pid signal s).2.1 = calls s ++ [c] := by
  refine ⟨⟨pid, signal, (machine.kill pid signal s).1⟩, rfl, rfl, ?_⟩
  rw [← hcalls pid signal s, sendSignal, if_neg h, Observing.bind_run]
  generalize (machine.kill pid signal s).1 = errno
  by_cases hzero : errno = 0
  · rw [if_pos hzero, SignalCall.answer_of_not_refused fun hc => hc.1 hzero]
    exact ⟨congrArg Except.ok (decide_eq_true hzero).symm, rfl⟩
  rw [if_neg hzero]
  by_cases hgone : errno = Errno.noProcess
  · rw [if_pos hgone, SignalCall.answer_of_not_refused fun hc => hc.2 hgone]
    exact ⟨congrArg Except.ok (decide_eq_false hzero).symm, rfl⟩
  rw [if_neg hgone, SignalCall.answer_of_refused ⟨hzero, hgone⟩, SignalCall.fault]
  by_cases hpermission : errno = Errno.permission
  · rw [if_pos hpermission, if_pos hpermission]
    exact ⟨rfl, rfl⟩
  · rw [if_neg hpermission, if_neg hpermission]
    exact ⟨rfl, rfl⟩

end Machine

/-! ## Rounds -/

/-- What a signal to the processes `pids`, one after the other, comes to: the calls that were not
refused, the call that ended the round, and the processes that were not signalled for that. -/
structure SignalRound (signal : Int) (pids : List Nat) where
  answered : List SignalCall
  refused? : Option SignalCall
  spared : List Nat
  pids_eq : (answered ++ refused?.toList).map SignalCall.pid ++ spared = pids
  signal_eq : ∀ c ∈ answered ++ refused?.toList, c.signal = signal
  not_refused : ∀ c ∈ answered, ¬ c.Refused
  refused : ∀ c ∈ refused?, c.Refused
  spared_eq : refused? = none → spared = []

namespace SignalRound

variable {signal : Int} {pids : List Nat}

def calls (r : SignalRound signal pids) : List SignalCall := r.answered ++ r.refused?.toList

/-- What the caller is told, if it was `delivered` before the round. -/
def answer (delivered : Bool) (r : SignalRound signal pids) : Except Fault Bool :=
  match r.refused? with
  | some c => .error c.fault
  | none => .ok (delivered || r.answered.any SignalCall.delivered)

def nil (signal : Int) : SignalRound signal [] where
  answered := []
  refused? := none
  spared := []
  pids_eq := rfl
  signal_eq := nofun
  not_refused := nofun
  refused := nofun
  spared_eq _ := rfl

/-- The round before which one more process was signalled. -/
def cons (c : SignalCall) (hsignal : c.signal = signal) (hc : ¬ c.Refused)
    (r : SignalRound signal pids) : SignalRound signal (c.pid :: pids) where
  answered := c :: r.answered
  refused? := r.refused?
  spared := r.spared
  pids_eq := congrArg (c.pid :: ·) r.pids_eq
  signal_eq := List.forall_mem_cons.mpr ⟨hsignal, r.signal_eq⟩
  not_refused := List.forall_mem_cons.mpr ⟨hc, r.not_refused⟩
  refused := r.refused
  spared_eq := r.spared_eq

theorem answer_cons (r : SignalRound signal pids) (delivered : Bool) {c : SignalCall}
    (hsignal : c.signal = signal) (hc : ¬ c.Refused) :
    (r.cons c hsignal hc).answer delivered = r.answer (delivered || c.delivered) := by
  simp only [answer, cons, List.any_cons, Bool.or_assoc]

/-- The round that ends with its first process. -/
def stop (c : SignalCall) (hsignal : c.signal = signal) (hc : c.Refused) (pids : List Nat) :
    SignalRound signal (c.pid :: pids) where
  answered := []
  refused? := some c
  spared := pids
  pids_eq := rfl
  signal_eq := List.forall_mem_singleton.mpr hsignal
  not_refused := nofun
  refused := fun _ h => Option.some.inj h ▸ hc
  spared_eq := nofun

theorem exists_refused (r : SignalRound signal pids) (h : r.spared ≠ []) :
    ∃ c ∈ r.calls, c.Refused := by
  obtain ⟨c, hc⟩ := Option.ne_none_iff_exists'.mp (mt r.spared_eq h)
  exact ⟨c, List.mem_append_right _ (hc ▸ List.mem_singleton_self c), r.refused c hc⟩

theorem count_calls (r : SignalRound signal pids) (h : pids.Nodup) (pid : Nat) :
    (r.calls.map SignalCall.pid).count pid = if pid ∈ pids ∧ pid ∉ r.spared then 1 else 0 := by
  have hpids : r.calls.map SignalCall.pid ++ r.spared = pids := r.pids_eq
  obtain ⟨hcalls, -, hdisjoint⟩ := List.nodup_append.mp (hpids ▸ h)
  have hmem : pid ∈ r.calls.map SignalCall.pid ++ r.spared ↔ _ := List.mem_append
  rw [hpids] at hmem
  have hiff : pid ∈ r.calls.map SignalCall.pid ↔ pid ∈ pids ∧ pid ∉ r.spared := by
    constructor
    · intro hcall
      exact ⟨hmem.mpr (.inl hcall), fun hspared => hdisjoint pid hcall pid hspared rfl⟩
    · rintro ⟨hpid, hspared⟩
      exact (hmem.mp hpid).resolve_right hspared
  rw [hcalls.count]
  simp only [hiff]

end SignalRound

namespace ProcessTable

variable {σ : Type} {machine : Machine (Observing σ)} {calls : σ → List SignalCall} {signal : Int}
  {t : ProcessTable}

/-- The numbers that are in reach of a signal. -/
def inReach (ps : List ProcessEntry) : List Nat :=
  (ps.map ProcessEntry.pid).filter (· ≤ Machine.maxSignalPid)

section Step

variable {p : ProcessEntry} {s : σ}

theorem signalAll_of_error {fault : Fault} {probe : Probe (Observing σ)}
    (h : (p.sendSignal probe signal s).1 = .error fault) (delivered : Bool)
    (rest : List ProcessEntry) :
    (signalAll probe signal delivered (p :: rest) s).1 = .error fault ∧
      (signalAll probe signal delivered (p :: rest) s).2.1 = (p.sendSignal probe signal s).2.1 := by
  rw [signalAll, Observing.bind_run, h]
  exact ⟨rfl, rfl⟩

theorem signalAll_of_ok {sent : Bool} {probe : Probe (Observing σ)}
    (h : (p.sendSignal probe signal s).1 = .ok sent) (delivered : Bool)
    (rest : List ProcessEntry) :
    (signalAll probe signal delivered (p :: rest) s).1 =
        (signalAll probe signal (delivered || sent) rest (p.sendSignal probe signal s).2.1).1 ∧
      (signalAll probe signal delivered (p :: rest) s).2.1 =
        (signalAll probe signal (delivered || sent) rest
          (p.sendSignal probe signal s).2.1).2.1 := by
  rw [signalAll, Observing.bind_run, h]
  exact ⟨rfl, rfl⟩

theorem sendSignal_probe (machine : Machine (Observing σ)) (root : String) (signal : Int)
    (p : ProcessEntry) :
    p.sendSignal (machine.probe root) signal = machine.sendSignal p.pid signal := rfl

/-- A number that is out of reach is passed over. -/
theorem signalAll_of_gt (h : p.pid > Machine.maxSignalPid) (root : String) (delivered : Bool)
    (rest : List ProcessEntry) :
    signalAll (machine.probe root) signal delivered (p :: rest) s =
      signalAll (machine.probe root) signal delivered rest s := by
  rw [signalAll, Observing.bind_run, sendSignal_probe, machine.sendSignal_of_gt h]
  simp only [Bool.or_false, List.nil_append]

end Step

theorem inReach_of_gt {p : ProcessEntry} (h : p.pid > Machine.maxSignalPid)
    (rest : List ProcessEntry) : inReach (p :: rest) = inReach rest :=
  List.filter_cons_of_neg (by simpa using h)

theorem inReach_of_le {p : ProcessEntry} (h : ¬ p.pid > Machine.maxSignalPid)
    (rest : List ProcessEntry) : inReach (p :: rest) = p.pid :: inReach rest :=
  List.filter_cons_of_pos (by simpa using h)

theorem signalAll_round (hcalls : machine.Records calls) (root : String) (delivered : Bool)
    (ps : List ProcessEntry) (s : σ) :
    ∃ round : SignalRound signal (inReach ps),
      calls (signalAll (machine.probe root) signal delivered ps s).2.1 = calls s ++ round.calls ∧
      (signalAll (machine.probe root) signal delivered ps s).1 = round.answer delivered := by
  -- The system changes with every call, and so does what was delivered so far.
  induction ps generalizing delivered s with
  | nil => exact ⟨.nil signal, (List.append_nil _).symm, congrArg Except.ok (Bool.or_false _).symm⟩
  | cons p rest ih =>
    by_cases hpid : p.pid > Machine.maxSignalPid
    · rw [signalAll_of_gt hpid, inReach_of_gt hpid]
      exact ih delivered s
    obtain ⟨c, hc, hsignal, hcall, hrecord⟩ := machine.sendSignal_of_le hpid hcalls signal s
    rw [← sendSignal_probe machine root] at hcall hrecord
    rw [inReach_of_le hpid, ← hc]
    by_cases hrefused : c.Refused
    · rw [SignalCall.answer_of_refused hrefused] at hcall
      obtain ⟨hanswer, hstate⟩ := signalAll_of_error hcall delivered rest
      exact ⟨.stop c hsignal hrefused _, by rw [hstate]; exact hrecord, hanswer⟩
    · rw [SignalCall.answer_of_not_refused hrefused] at hcall
      obtain ⟨hanswer, hstate⟩ := signalAll_of_ok hcall delivered rest
      obtain ⟨round, hcalled, hround⟩ := ih (delivered || c.delivered)
        (p.sendSignal (machine.probe root) signal s).2.1
      refine ⟨round.cons c hsignal hrefused, ?_, ?_⟩
      · rw [hstate, hcalled, hrecord, List.append_assoc]
        rfl
      · rw [hanswer, hround, round.answer_cons]

theorem mem_inReach {pid : Nat} {ps : List ProcessEntry} :
    pid ∈ inReach ps ↔ pid ≤ Machine.maxSignalPid ∧ ∃ p ∈ ps, p.pid = pid := by
  simp only [inReach, List.mem_filter, List.mem_map, decide_eq_true_eq, and_comm]

theorem Ascending.inReach {ps : List ProcessEntry} (h : Ascending ps) :
    (inReach ps).Pairwise (· < ·) :=
  (List.pairwise_map.mpr h).filter _

/-- Every process of the name is signalled once and no other one is, up to the first that refuses
the signal. The processes of the name after that one are spared. -/
theorem signals_until_refused {cadence : Cadence} {records : List Record}
    (run : Run cadence records t) (hcalls : machine.Records calls) (root name : String)
    (signal : Int) (s : σ) :
    (inReach (t.named name)).Pairwise (· < ·) ∧
    (∀ pid, pid ∈ inReach (t.named name) ↔
      pid ≤ Machine.maxSignalPid ∧ ∃ p ∈ t.processes, p.comm = name ∧ p.pid = pid) ∧
    ∃ round : SignalRound signal (inReach (t.named name)),
      calls (t.sendSignalByName (machine.probe root) name signal s).2.1 = calls s ++ round.calls ∧
      (t.sendSignalByName (machine.probe root) name signal s).1 = round.answer false ∧
      (∀ pid, (round.calls.map SignalCall.pid).count pid =
        if pid ∈ inReach (t.named name) ∧ pid ∉ round.spared then 1 else 0) ∧
      (round.spared ≠ [] → ∃ c ∈ round.calls, c.Refused) := by
  have hascending : Ascending (t.named name) := run.ascending.filter _
  obtain ⟨round, hrecord, hanswer⟩ := signalAll_round hcalls root false (t.named name) s
  refine ⟨hascending.inReach, fun pid => ?_, round, hrecord, hanswer, fun pid => ?_, fun h => ?_⟩
  · rw [mem_inReach]
    simp only [named, List.mem_filter, beq_iff_eq, and_assoc]
  · exact round.count_calls (hascending.inReach.imp Nat.ne_of_lt) pid
  · exact round.exists_refused h

/-! ## A process that refuses -/

def twoShells : Pass Unit := ⟨.update true, filesOnly [10, 11] fun _ => shellFile 100, ()⟩

def refusing : World := { kernel := { killErrnos := [(10, Errno.permission), (11, 0)] } }

def signalCalls (w : World) : List SignalCall :=
  w.kernel.sent.map fun (pid, signal) => ⟨pid, signal, w.kernel.killErrno pid signal⟩

theorem world_records : World.machine.Records signalCalls := fun pid signal w => by
  simp only [signalCalls, World.machine, Observing.answer, Kernel.kill, List.map_append]
  rfl

/-- The first of two shells refuses the signal, and the second one never gets it. -/
theorem signals_until_refused_shells :
    ∃ round : SignalRound 15 (inReach ((twoShells.run (new ⟨.ofSeconds 60, 2⟩)).2.named "sh")),
      round.calls = [⟨10, 15, Errno.permission⟩] ∧ round.spared = [11] ∧
      ((twoShells.run (new ⟨.ofSeconds 60, 2⟩)).2.sendSignalByName
        (World.machine.probe "/proc") "sh" 15 refusing).1 =
          .error (.accessViolation "not permitted to signal pid 10") := by
  obtain ⟨-, -, round, hrecord, hanswer, -, -⟩ := signals_until_refused
    (Run.new.pass twoShells) world_records "/proc" "sh" 15 refusing
  have hcalls : signalCalls ((twoShells.run (new ⟨.ofSeconds 60, 2⟩)).2.sendSignalByName
      (World.machine.probe "/proc") "sh" 15 refusing).2.1 = [⟨10, 15, Errno.permission⟩] := by
    decide +kernel
  have hreach : inReach ((twoShells.run (new ⟨.ofSeconds 60, 2⟩)).2.named "sh") = [10, 11] := by
    decide +kernel
  have hround : round.calls = [⟨10, 15, Errno.permission⟩] := hrecord.symm.trans hcalls
  refine ⟨round, hround, ?_, ?_⟩
  · have hpids : round.calls.map SignalCall.pid ++ round.spared = [10, 11] :=
      round.pids_eq.trans hreach
    rw [hround] at hpids
    exact (List.cons.inj hpids).2
  · rfl

end ProcessTable

end SystemMetrics
