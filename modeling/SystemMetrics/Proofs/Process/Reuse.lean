import SystemMetrics.Proofs.Process.Run

/-!
# Reused process numbers

A number can be given to another process between two passes, and even between two reads of one pass.
The trail of a process comes from passes that found it under its present start time and from no
others: it is what these passes leave when they are played again from a blank trail. A process that
is found with another start time gives way to one with a blank trail, or to none.
-/

namespace SystemMetrics.ProcessTable

variable {cadence : Cadence} {records : List Record} {t : ProcessTable}

/-! ## Trails played again -/

/-- The trail that recorded passes leave under a number, played again from a blank trail. -/
def replay (history pid : Nat) : List Record → Trail
  | [] => .blank history
  | r :: older => match r.table.find? pid with
    | none => replay history pid older
    | some p => (r.effect.apply (p.withTrail (replay history pid older))).trail

/-- The trail of a process is that of recorded passes, all of which left a process with its start
time under its number. -/
structure TracedBack (history : Nat) (recent : List Record) (p : ProcessEntry) : Prop where
  sameStart : ∀ r ∈ recent, ∃ q, r.table.find? p.pid = some q ∧ q.startTicks = p.startTicks
  trail : p.trail = replay history p.pid recent

/-- A pass that left `e.apply p` under its number adds its effect to what was traced back to. -/
theorem TracedBack.cons {history : Nat} {recent : List Record} {e : Effect}
    {p : ProcessEntry} (h : TracedBack history recent p) (hp : t.find? p.pid = some (e.apply p)) :
    TracedBack history (⟨e, t⟩ :: recent) (e.apply p) := by
  constructor
  · intro r hr
    rw [Effect.apply_pid, Effect.apply_startTicks]
    rcases List.mem_cons.mp hr with rfl | hr
    · exact ⟨e.apply p, hp, Effect.apply_startTicks e p⟩
    · exact h.sameStart r hr
  · rw [Effect.apply_pid]
    simp only [replay, hp]
    rw [← h.trail, Effect.apply_withTrail]

theorem TracedBack.blank {history : Nat} {p : ProcessEntry} (h : p.trail = .blank history) :
    TracedBack history [] p :=
  ⟨fun _ hr => (nomatch hr), h⟩

/-- What can be traced back stays so under another refresh that keeps start time and trail. -/
theorem TracedBack.refreshed {history : Nat} {recent : List Record} {p q : ProcessEntry}
    (h : TracedBack history recent p) (hpid : q.pid = p.pid)
    (hstart : q.startTicks = p.startTicks) (htrail : q.trail = p.trail) :
    TracedBack history recent q := by
  constructor
  · intro r hr
    rw [hpid, hstart]
    exact h.sameStart r hr
  · rw [htrail, hpid]
    exact h.trail

/-- In every run, the trail of each process can be traced back to the latest passes. -/
theorem Run.tracedBack (h : Run cadence records t) {pid : Nat} {p : ProcessEntry}
    (hp : t.find? pid = some p) :
    ∃ recent, recent <+: records ∧ TracedBack cadence.history recent p := by
  induction h generalizing pid p with
  | new => cases hp
  | @pass σ records t hrun pass ih =>
    have hleft := hp
    rw [pass.find?_run] at hp
    obtain ⟨q, hq, rfl⟩ := Option.map_eq_some_iff.mp hp
    have hpid : q.pid = pid := pid_of_lookup hq
    subst hpid
    -- The refresh of the pass either kept the process or read one afresh.
    rcases pass.refreshed_continues t q.pid q hq with ⟨o, ho, hstart, htrail⟩ | hblank
    · obtain ⟨recent, hprefix, htraced⟩ := ih ho
      have hq' := htraced.refreshed (pid_of_lookup ho).symm hstart htrail
      exact ⟨_ :: recent, (List.cons_prefix_cons).mpr ⟨rfl, hprefix⟩, hq'.cons hleft⟩
    · rw [hrun.cadence_eq] at hblank
      exact ⟨[_], ⟨records, rfl⟩, (TracedBack.blank hblank).cons hleft⟩

/-! ## A number found with another start time -/

theorem refresh_other_start {σ : Type} {probe : Probe (Observing σ)} {s : σ} {pid : Nat}
    {p q : ProcessEntry} (hp : t.find? pid = some p)
    (hq : (t.refresh probe s).1.2.find? pid = some q) (hstart : q.startTicks ≠ p.startTicks) :
    q.trail = .blank t.cadence.history := by
  rcases refresh_continues probe t s pid q hq with ⟨o, ho, hsame, _⟩ | hblank
  · cases ho.symm.trans hp
    exact absurd hsame hstart
  · exact hblank

theorem visits_reused {σ : Type} {probe : Probe (Observing σ)} {s : σ} {loud : Bool} {pid : Nat}
    {rest : List Nat} {progress : Progress} {p seen q : ProcessEntry}
    (hp : lookup pid progress.processes = some p)
    (hseen : (p.refresh probe false s).1 = (.ok true, seen))
    (hstart : seen.startTicks ≠ p.startTicks)
    (hq : lookup pid ((pid :: rest).foldlM (visit probe t loud) progress s).1.processes = some q) :
    q.trail = .blank t.cadence.history := by
  -- The later visits of the pass go on from what the first one left under the number.
  rcases visits_continue probe t loud rest (visit probe t loud progress pid s).1
    (visit probe t loud progress pid s).2.1 pid q hq with ⟨r, hr, _, htrail⟩ | hblank
  · rw [lookup_visit, if_pos rfl, hp] at hr
    rw [htrail]
    exact settle_reused hseen hstart hr
  · exact hblank

/-- A reused number never mixes two processes. Whatever the systems answered in the passes of a
run, the histories, the time of death and the timed values of a process are those that the latest
passes leave, all of which found it with its present start time. A number whose process is seen with
another start time, between two passes or within one, has no process or one with a blank trail. -/
theorem Run.trails_unmixed (h : Run cadence records t) :
    (∀ pid p, t.find? pid = some p →
      ∃ recent, recent <+: records ∧ TracedBack cadence.history recent p) ∧
    ∀ {σ : Type} (probe : Probe (Observing σ)) (s : σ) (pid : Nat) (p : ProcessEntry),
      (t.find? pid = some p → ∀ q, (t.refresh probe s).1.2.find? pid = some q →
        q.startTicks ≠ p.startTicks → q.trail = .blank cadence.history) ∧
      ∀ loud progress rest seen, lookup pid progress.processes = some p →
        (p.refresh probe false s).1 = (.ok true, seen) → seen.startTicks ≠ p.startTicks →
        ∀ q, lookup pid ((pid :: rest).foldlM (visit probe t loud) progress s).1.processes =
          some q → q.trail = .blank cadence.history := by
  rw [← h.cadence_eq]
  refine ⟨fun pid p hp => ?_, fun probe s pid p => ⟨fun hp q hq hstart => ?_, ?_⟩⟩
  · rw [h.cadence_eq]
    exact h.tracedBack hp
  · exact refresh_other_start hp hq hstart
  · intro loud progress rest seen hp hseen hstart q hq
    exact visits_reused hp hseen hstart hq

/-- The two samples of a shell are gone once another one is seen under its number. -/
theorem trails_unmixed_shells : ∃ records p q,
    Run ⟨.ofSeconds 60, 2⟩ records sampledTwice ∧ sampledTwice.find? 7 = some p ∧
    p.sampleCount = 2 ∧ (∃ recent, recent <+: records ∧ TracedBack 2 recent p) ∧
    (sampledTwice.refresh (shellPass 250).probe ()).1.2.find? 7 = some q ∧
    q.startTicks ≠ p.startTicks ∧ q.trail = .blank 2 := by
  have hrun : Run ⟨.ofSeconds 60, 2⟩ _ sampledTwice :=
    (Run.new.pass (shellPass 100)).pass (shellPass 100)
  have hp : (sampledTwice.find? 7).map (fun p => (p.startTicks, p.sampleCount)) =
      some (100, 2) := by
    decide +kernel
  have hq : ((sampledTwice.refresh (shellPass 250).probe ()).1.2.find? 7).map
      (·.startTicks) = some 250 := by
    decide +kernel
  obtain ⟨p, hfind, hpair⟩ := Option.map_eq_some_iff.mp hp
  obtain ⟨hstart, hcount⟩ := Prod.mk.inj hpair
  obtain ⟨q, hfind', hstart'⟩ := Option.map_eq_some_iff.mp hq
  have hne : q.startTicks ≠ p.startTicks := by rw [hstart, hstart']; decide
  obtain ⟨htraced, hfresh⟩ := Run.trails_unmixed hrun
  exact ⟨_, p, q, hrun, hfind, hcount, htraced 7 p hfind, hfind', hne,
    (hfresh _ () 7 p).1 hfind q hfind' hne⟩

end SystemMetrics.ProcessTable
