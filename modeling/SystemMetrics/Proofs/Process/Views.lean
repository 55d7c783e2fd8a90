import SystemMetrics.Proofs.Process.Death

/-!
# The views of a terminated process

The name, the execution state and the sampling calls each look at the state letter on their own. The
execution state and the sampling calls take `Z` and `X` for terminated, so that a sampling call
never leaves a terminated process without a date. The name marks `Z` only: it agrees with the other
two unless the letter is `X`.
-/

namespace SystemMetrics

theorem ExecutionState.ofLinux_eq_terminated_iff (letter : Char) :
    ofLinux letter = .terminated ↔ letter = 'Z' ∨ letter = 'X' := by
  unfold ofLinux
  split <;> simp_all

namespace ProcessEntry

variable {p : ProcessEntry} {history : Nat} {read : Committed} {calls : List Sampling}

/-- The name of a process that is shown as terminated. -/
def marked (comm : String) : String := "[" ++ comm ++ "] <defunct>"

/-- No command name is its own mark, whatever characters it has. -/
theorem marked_ne (comm : String) : comm ≠ marked comm := by
  intro h
  have hlength := congrArg String.length h
  simp only [marked, String.length_append] at hlength
  have hopening : "[".length = 1 := rfl
  omega

theorem name_eq_marked_iff (p : ProcessEntry) :
    p.name = marked p.stat.comm ↔ p.stat.state = 'Z' := by
  by_cases h : p.stat.state = 'Z'
  · simp [name, marked, h]
  · simp [name, h, marked_ne p.stat.comm]

theorem name_of_ne_marked (h : p.name ≠ marked p.stat.comm) : p.name = p.stat.comm :=
  if_neg (mt (name_eq_marked_iff p).mpr h)

theorem state_eq_terminated_iff (p : ProcessEntry) :
    p.state = .terminated ↔ p.stat.state = 'Z' ∨ p.stat.state = 'X' :=
  ExecutionState.ofLinux_eq_terminated_iff p.stat.state

/-- If any call found the process terminated, then one of them gave the time of death. -/
theorem exists_firstDeath {call : Sampling} (hmem : call ∈ calls) (hdead : call.FoundDead) :
    ∃ first ∈ calls, first.FoundDead ∧ firstDeath? calls = some first.now := by
  have hne : firstDeath? calls ≠ none := fun h => firstDeath?_eq_none_iff.mp h call hmem hdead
  obtain ⟨t, ht⟩ := Option.ne_none_iff_exists'.mp hne
  obtain ⟨first, hfirst, hsome⟩ := List.exists_of_findSome?_eq_some ht
  by_cases h : first.FoundDead
  · rw [if_pos h] at hsome
    exact ⟨first, List.mem_reverse.mp hfirst, h, ht.trans hsome.symm⟩
  · rw [if_neg h] at hsome
    cases hsome

/-- The views of a process on whether it is terminated. After any refreshes and sampling calls, the
execution state is terminated if the last refresh that got through read `Z` or `X`, and the name is
marked if it read `Z`; so the two agree for every command name and every letter but `X`. Right after
a sampling call a terminated process has a date, that of a call which found it so. -/
theorem Run.views_agree_iff (h : Run history read calls p) :
    (p.state = .terminated ↔ read.stat.state = 'Z' ∨ read.stat.state = 'X') ∧
    (p.name = marked read.stat.comm ↔ read.stat.state = 'Z') ∧
    (p.name ≠ marked read.stat.comm → p.name = read.stat.comm) ∧
    ((p.name = marked read.stat.comm ↔ p.state = .terminated) ↔ read.stat.state ≠ 'X') ∧
    ∀ now takenAt, (p.sample now takenAt).state = .terminated →
      ∃ call ∈ ⟨now, takenAt, read⟩ :: calls, call.FoundDead ∧
        (p.sample now takenAt).terminationDate? = some call.now := by
  have hstat : p.stat = read.stat := h.fed.1
  have hstate := state_eq_terminated_iff p
  have hname := name_eq_marked_iff p
  rw [hstat] at hstate hname
  refine ⟨hstate, hname, ?_, ?_, ?_⟩
  · rw [← hstat]
    exact name_of_ne_marked
  · rw [hname, hstate]
    constructor
    · rintro hagree hexited
      exact absurd (hagree.mpr (.inr hexited)) (by rw [hexited]; decide)
    · exact fun hne => ⟨.inl, fun hdead => hdead.resolve_right hne⟩
  · intro now takenAt hterminated
    have hdead : Sampling.FoundDead ⟨now, takenAt, read⟩ := hstate.mp hterminated
    obtain ⟨call, hcall, hfound, hdeath⟩ := exists_firstDeath List.mem_cons_self hdead
    exact ⟨call, hcall, hfound, (h.sample now takenAt).timeOfDeath_eq.trans hdeath⟩

/-- A process that has been found in the state `X`: it is terminated by its state and has a date,
but its name is that of a running one. -/
theorem views_differ_exited :
    let found := ((new (shellInState "X") 7 0 2 ()).1.refresh (shellInState "X") true ()).1.2
    ∃ read, Run 2 read [] found ∧ read.stat.state = 'X' ∧
      found.state = .terminated ∧ found.name = "sh" ∧
      ¬ (found.name = marked "sh" ↔ found.state = .terminated) ∧
      (found.sample ⟨5000⟩ 0).terminationDate? = some ⟨5000⟩ := by
  intro found
  have hrun : Run 2 _ [] found := (Run.new (shellInState "X") () 7 0).refresh _ true ()
  obtain ⟨hstate, -, hplain, hagree, hdate⟩ := Run.views_agree_iff hrun
  have hexited := hstate.mpr (by decide +kernel)
  have hname := hplain (by decide +kernel)
  obtain ⟨call, hcall, -, hdeath⟩ := hdate ⟨5000⟩ 0 hexited
  obtain rfl := List.mem_singleton.mp hcall
  exact ⟨_, hrun, by decide +kernel, hexited, hname.trans (by decide +kernel),
    fun h => hagree.mp h (by decide +kernel), hdeath⟩

end ProcessEntry

end SystemMetrics
