import SystemMetrics.Proofs.Overlap.Families

/-!
# The order of samples under overlapping passes

Nothing keeps a pass from being overtaken between its two steps, so a history can fall although
what was read only grew. It falls at overtaken passes only, and never where there are none.
-/

namespace SystemMetrics

/-- In every interleaving of passes over processors, over paging and over processes: where the
counters, as they were read, and the wall clock only grew, and the clock stayed within 64 bits, a
value in a history is above a later one only if the pass of the later one read before the pass of
the other. Where no pass was overtaken, every history rises from its oldest sample to its newest. -/
theorem falls_only_where_overtaken (cadence : Cadence) :
    (∀ {c : Schedule Processors.Reading} {ps : Processors},
      Interleaving Processors.passes (.new cadence) c ps →
      ((c.taken.flatMap Processors.Reading.rows).Pairwise fun older newer =>
        older.1 = newer.1 → older.2.Below newer.2) →
      ∀ target p, ps.at? target = some p → ∀ k,
        c.Explains (Processors.Reading.valuesOf target k) (p.history k).values ∧
        (c.InOrder → (p.history k).values.Pairwise (· ≤ ·))) ∧
    (∀ {c : Schedule Proc.PagingCounters} {p : Paging},
      Interleaving Paging.passes (.new cadence) c p →
      (c.taken.Pairwise fun older newer =>
        older.pagesIn ≤ newer.pagesIn ∧ older.pagesOut ≤ newer.pagesOut) →
      c.Explains (fun counters => [counters.pagesIn]) p.reads.values ∧
      c.Explains (fun counters => [counters.pagesOut]) p.writes.values ∧
      (c.InOrder → p.reads.values.Pairwise (· ≤ ·) ∧ p.writes.values.Pairwise (· ≤ ·))) ∧
    (∀ {c : Schedule Timestamp} {t : ProcessTable},
      Interleaving ProcessTable.passes (.new cadence) c t →
      (c.taken.Pairwise fun older newer : Timestamp =>
        older.milliseconds ≤ newer.milliseconds ∧ newer.milliseconds < Text.word64) →
      ∀ pid p, t.find? pid = some p → ∀ h ∈ [p.histories.realMs, p.histories.ioRealMs],
        c.Explains (fun now => [now.sinceEpoch]) h.values ∧
        (c.InOrder → h.values.Pairwise (· ≤ ·))) := by
  refine ⟨?_, ?_, ?_⟩
  · intro c ps h hgrow target p hp k
    have hexplained := Processors.explained h hgrow hp k
    exact ⟨hexplained, hexplained.ordered⟩
  · intro c p h hgrow
    obtain ⟨hreads, hwrites⟩ := Paging.explained h hgrow
    exact ⟨hreads, hwrites, fun horder => ⟨hreads.ordered horder, hwrites.ordered horder⟩⟩
  · intro c t h hgrow pid p hp history hmem
    have hexplained : c.Explains (fun now => [now.sinceEpoch]) history.values := by
      simp only [List.mem_cons, List.not_mem_nil, or_false] at hmem
      rcases hmem with rfl | rfl
      · exact ProcessTable.explained h hgrow ProcessTable.holdsClock_realMs hp
      · exact ProcessTable.explained h hgrow ProcessTable.holdsClock_ioRealMs hp
    exact ⟨hexplained, hexplained.ordered⟩

/-! ## Two passes at once -/

section TwoPasses

variable {S R : Type} [DecidableEq R] {P : TwoStep S R} {s s' s'' : S} {early late : R}

/-- Two passes have read, one after the other. -/
def Schedule.bothRead (early late : R) : Schedule R := (({} : Schedule R).read early).read late

theorem Interleaving.bothRead (hearly : P.Reads early) (hlate : P.Reads late) :
    Interleaving P s (.bothRead early late) s :=
  (Interleaving.start.read hearly).read hlate

theorem Interleaving.kept (hearly : P.Reads early) (hlate : P.Reads late)
    (hs : P.Records early s s') (hs' : P.Records late s' s'') :
    Interleaving P s (((Schedule.bothRead early late).record (0, early)).record (1, late)) s'' := by
  refine ((bothRead hearly hlate).record ?_ hs).record ?_ hs'
  all_goals simp [Schedule.bothRead, Schedule.read, Schedule.record]

theorem Interleaving.overtaken (hearly : P.Reads early) (hlate : P.Reads late)
    (hs : P.Records late s s') (hs' : P.Records early s' s'') :
    Interleaving P s (((Schedule.bothRead early late).record (1, late)).record (0, early)) s'' := by
  refine ((bothRead hearly hlate).record ?_ hs).record ?_ hs'
  all_goals simp [Schedule.bothRead, Schedule.read, Schedule.record]

end TwoPasses

/-- A machine with a shell, whose counters and clock have come to `n`. -/
def machineAt (n : Nat) : Probe (Observing Unit) :=
  { ProcessTable.filesOnly [7] fun _ => ProcessTable.shellFile 100 with
    systemStat := return .ok ("cpu  " ++ toString n ++ " 0 0 9\n")
    vmStat := return .ok ("pgpgin " ++ toString n ++ "\npgpgout " ++ toString n ++ "\n")
    wallClock := return ⟨n⟩ }

def readingAt (n : Nat) : Processors.Reading := ⟨"cpu  " ++ toString n ++ " 0 0 9\n", 0⟩

theorem readingAt_reads (n : Nat) : Processors.passes.Reads (readingAt n) :=
  ⟨Unit, machineAt n, (), rfl⟩

theorem countersAt_reads {n : Nat} (h : (Paging.read (machineAt n) ()).1 = .ok ⟨n, n⟩) :
    Paging.passes.Reads ⟨n, n⟩ :=
  ⟨Unit, machineAt n, (), h⟩

theorem clockAt_reads (n : Nat) : ProcessTable.passes.Reads ⟨n⟩ := ⟨Unit, machineAt n, (), rfl⟩

def sampledAt (n : Nat) (t : ProcessTable) : ProcessTable :=
  (t.sampleAt (machineAt n) ⟨n⟩ ()).1.2

theorem sampledAt_records (n : Nat) (t : ProcessTable) :
    ProcessTable.passes.Records ⟨n⟩ t (sampledAt n t) :=
  ⟨Unit, machineAt n, (), rfl⟩

/-- Passes that read at 10 and at 20 and record in this order, although both have read by then. -/
theorem falls_only_where_overtaken_kept :
    (∃ c ps, Interleaving Processors.passes (.new ⟨.ofSeconds 10, 7⟩) c ps ∧
      (ps.total.history .user).values = [10, 20] ∧
      (ps.total.history .user).values.Pairwise (· ≤ ·)) ∧
    (∃ c p, Interleaving Paging.passes (.new ⟨.ofSeconds 10, 7⟩) c p ∧
      p.reads.values = [10, 20] ∧ p.reads.values.Pairwise (· ≤ ·)) ∧
    ∃ c t, Interleaving ProcessTable.passes (.new ⟨.ofSeconds 10, 7⟩) c t ∧
      (t.find? 7).map (·.histories.realMs.values) = some [10, 20] ∧
      ∀ p, t.find? 7 = some p → p.histories.realMs.values.Pairwise (· ≤ ·) := by
  obtain ⟨hprocessors, hpaging, htable⟩ := falls_only_where_overtaken ⟨.ofSeconds 10, 7⟩
  refine ⟨?_, ?_, ?_⟩
  · have hrun := Interleaving.kept (s := Processors.new ⟨.ofSeconds 10, 7⟩)
      (readingAt_reads 10) (readingAt_reads 20) rfl rfl
    refine ⟨_, _, hrun, by decide +kernel, ?_⟩
    exact (hprocessors hrun (by decide +kernel) .total _ rfl .user).2 (by decide)
  · have hrun := Interleaving.kept (s := Paging.new ⟨.ofSeconds 10, 7⟩)
      (countersAt_reads (n := 10) (by decide +kernel))
      (countersAt_reads (n := 20) (by decide +kernel)) ⟨0, rfl⟩ ⟨0, rfl⟩
    refine ⟨_, _, hrun, by decide +kernel, ?_⟩
    exact ((hpaging hrun (by decide)).2.2 (by decide)).1
  · have hrun := Interleaving.kept (s := ProcessTable.new ⟨.ofSeconds 10, 7⟩)
      (clockAt_reads 10) (clockAt_reads 20) (sampledAt_records 10 _) (sampledAt_records 20 _)
    refine ⟨_, _, hrun, by decide +kernel, fun p hp => ?_⟩
    exact (htable hrun (by decide) 7 p hp _ List.mem_cons_self).2 (by decide)

/-- Counters and clock only grow, and yet all three histories fall: the pass that read at 10 is
overtaken by the one that read at 20. -/
theorem falls_where_overtaken :
    (∃ c ps, Interleaving Processors.passes (.new ⟨.ofSeconds 10, 7⟩) c ps ∧
      ((c.taken.flatMap Processors.Reading.rows).Pairwise fun older newer =>
        older.1 = newer.1 → older.2.Below newer.2) ∧
      (ps.total.history .user).values = [20, 10]) ∧
    (∃ c p, Interleaving Paging.passes (.new ⟨.ofSeconds 10, 7⟩) c p ∧
      (c.taken.Pairwise fun older newer =>
        older.pagesIn ≤ newer.pagesIn ∧ older.pagesOut ≤ newer.pagesOut) ∧
      p.reads.values = [20, 10]) ∧
    ∃ c t, Interleaving ProcessTable.passes (.new ⟨.ofSeconds 10, 7⟩) c t ∧
      (c.taken.Pairwise fun older newer => older.milliseconds ≤ newer.milliseconds) ∧
      (t.find? 7).map (·.histories.realMs.values) = some [20, 10] := by
  refine ⟨?_, ?_, ?_⟩
  · have hrun := Interleaving.overtaken (s := Processors.new ⟨.ofSeconds 10, 7⟩)
      (readingAt_reads 10) (readingAt_reads 20) rfl rfl
    exact ⟨_, _, hrun, by decide +kernel, by decide +kernel⟩
  · have hrun := Interleaving.overtaken (s := Paging.new ⟨.ofSeconds 10, 7⟩)
      (countersAt_reads (n := 10) (by decide +kernel))
      (countersAt_reads (n := 20) (by decide +kernel)) ⟨0, rfl⟩ ⟨0, rfl⟩
    exact ⟨_, _, hrun, by decide, by decide⟩
  · have hrun := Interleaving.overtaken (s := ProcessTable.new ⟨.ofSeconds 10, 7⟩)
      (clockAt_reads 10) (clockAt_reads 20) (sampledAt_records 20 _) (sampledAt_records 10 _)
    exact ⟨_, _, hrun, by decide, by decide +kernel⟩

/-! ## What is kept of a reading

A history can also fall where no pass is overtaken, if less is kept of a reading than there was. So
the counters that must grow are those that are kept.
-/

def rowProbe (row : String) : Probe (Observing Unit) :=
  { machineAt 0 with systemStat := return .ok row }

/-- The second row lists iowait and irq without softirq, so that all three count as zero. -/
theorem falls_without_softirq :
    ∃ ps ps', ((Processors.new ⟨.ofSeconds 10, 7⟩).sample (rowProbe "cpu  1 0 0 1 5 0 0\n") ()).1 =
        (.ok (), ps) ∧
      (ps.sample (rowProbe "cpu  2 0 0 2 6 0\n") ()).1 = (.ok (), ps') ∧
      (ps'.total.history .iowait).values = [5, 0] ∧
      (ps'.total.history .total).values = [7, 4] :=
  ⟨_, _, rfl, rfl, by decide +kernel, by decide +kernel⟩

/-- The clock outgrows the 64 bits that are kept of it. -/
theorem falls_beyond_word :
    ∃ c t, Interleaving ProcessTable.passes (.new ⟨.ofSeconds 10, 7⟩) c t ∧ c.InOrder ∧
      (c.taken.Pairwise fun older newer => older.milliseconds ≤ newer.milliseconds) ∧
      (t.find? 7).map (·.histories.realMs.values) = some [18446744073709551615, 0] := by
  have hrun := Interleaving.kept (s := ProcessTable.new ⟨.ofSeconds 10, 7⟩)
    (clockAt_reads 18446744073709551615) (clockAt_reads 18446744073709551616)
    (sampledAt_records _ _) (sampledAt_records _ _)
  exact ⟨_, _, hrun, by decide, by decide, by decide +kernel⟩

end SystemMetrics
