import SystemMetrics.Proofs.Cpu.Ticks
import SystemMetrics.Proofs.Text.Words

/-!
# The grammar of tick rows

Whether a line of `stat` is a row of ticks is decided by its words: the first one names the row, and
the numerals after it are its columns. Three of the columns are read only where at least eight words
stand on the line, and no word after these makes a difference.
-/

namespace SystemMetrics.Proc.CpuRow

open Text

variable {line : String} {name suffix : List Char} {ws columns : List (List Char)} {row : CpuRow}
  {t : TickRow}

/-! ## The grammar -/

/-- The first word of some is `cpu` with a suffix. -/
def Named (ws : List (List Char)) (suffix : List Char) : Prop :=
  ws.head? = some ("cpu".toList ++ suffix)

instance (ws : List (List Char)) (suffix : List Char) : Decidable (Named ws suffix) :=
  inferInstanceAs (Decidable (_ = _))

/-- The row that a suffix names: the sum of all processors, or the processor with a number. -/
inductive Names : List Char → CpuRow → Prop
  | total : Names [] .total
  | cpu {suffix : List Char} {n : Nat} (h : Numeral false suffix n) (hlt : n < word64) :
      Names suffix (.cpu n)

/-- The words hold these counters. Places are counted from zero, which is that of the name. -/
@[mk_iff] structure Holds (ws : List (List Char)) (t : TickRow) : Prop where
  user : NumberAt ws 1 t.user
  nice : NumberAt ws 2 t.nice
  system : NumberAt ws 3 t.system
  idle : NumberAt ws 4 t.idle
  late : if 8 ≤ ws.length then
      NumberAt ws 5 t.iowait ∧ NumberAt ws 6 t.irq ∧ NumberAt ws 7 t.softirq
    else t.iowait = 0 ∧ t.irq = 0 ∧ t.softirq = 0

/-- The words are a row of ticks. -/
structure IsRow (ws : List (List Char)) : Prop where
  name : ∃ suffix row, Named ws suffix ∧ Names suffix row
  enough : 5 ≤ ws.length
  early : ∀ place ∈ [1, 2, 3, 4], ∃ n, NumberAt ws place n
  late : 8 ≤ ws.length → ∀ place ∈ [5, 6, 7], ∃ n, NumberAt ws place n

theorem Holds.isRow (hname : Named ws suffix) (hrow : Names suffix row) (h : Holds ws t) :
    IsRow ws where
  name := ⟨suffix, row, hname, hrow⟩
  enough := h.idle.lt
  early := by
    simp only [List.forall_mem_cons, List.not_mem_nil, false_implies, implies_true, and_true]
    exact ⟨⟨_, h.user⟩, ⟨_, h.nice⟩, ⟨_, h.system⟩, ⟨_, h.idle⟩⟩
  late hlength := by
    have hlate := h.late
    rw [if_pos hlength] at hlate
    simp only [List.forall_mem_cons, List.not_mem_nil, false_implies, implies_true, and_true]
    exact ⟨⟨_, hlate.1⟩, ⟨_, hlate.2.1⟩, ⟨_, hlate.2.2⟩⟩

theorem IsRow.exists_holds (h : IsRow ws) :
    ∃ suffix row t, Named ws suffix ∧ Names suffix row ∧ Holds ws t := by
  obtain ⟨⟨suffix, row, hname, hrow⟩, -, hearly, hlate⟩ := h
  obtain ⟨user, huser⟩ := hearly 1 (by decide)
  obtain ⟨nice, hnice⟩ := hearly 2 (by decide)
  obtain ⟨system, hsystem⟩ := hearly 3 (by decide)
  obtain ⟨idle, hidle⟩ := hearly 4 (by decide)
  by_cases hlength : 8 ≤ ws.length
  · obtain ⟨iowait, hiowait⟩ := hlate hlength 5 (by decide)
    obtain ⟨irq, hirq⟩ := hlate hlength 6 (by decide)
    obtain ⟨softirq, hsoftirq⟩ := hlate hlength 7 (by decide)
    refine ⟨suffix, row, ⟨user, nice, system, idle, iowait, irq, softirq⟩, hname, hrow,
      huser, hnice, hsystem, hidle, ?_⟩
    rw [if_pos hlength]
    exact ⟨hiowait, hirq, hsoftirq⟩
  · refine ⟨suffix, row, ⟨user, nice, system, idle, 0, 0, 0⟩, hname, hrow,
      huser, hnice, hsystem, hidle, ?_⟩
    rw [if_neg hlength]
    exact ⟨rfl, rfl, rfl⟩

/-! ## Reading by the grammar -/

theorem bind_eq_ok {ε α β : Type} {x : Except ε α} {f : α → Except ε β} {b : β} :
    (x >>= f) = .ok b ↔ ∃ a, x = .ok a ∧ f a = .ok b := by
  cases x <;> simp [bind, Except.bind]

theorem pure_eq_ok {ε α : Type} {a b : α} : (pure a : Except ε α) = .ok b ↔ a = b := by
  simp [pure, Except.pure]

theorem ticks_eq_ok_iff {value : List Char} {n : Nat} :
    ticks name value = .ok n ↔ natural64? value = some n := by
  unfold ticks
  cases natural64? value <;> simp

section Columns

variable {w₁ w₂ w₃ w₄ w₅ w₆ w₇ : List Char} {late : List (List Char)}

theorem holds_short_iff (hlate : late.length < 3) :
    Holds (name :: w₁ :: w₂ :: w₃ :: w₄ :: late) t ↔
      natural64? w₁ = some t.user ∧ natural64? w₂ = some t.nice ∧ natural64? w₃ = some t.system ∧
      natural64? w₄ = some t.idle ∧ t.iowait = 0 ∧ t.irq = 0 ∧ t.softirq = 0 := by
  have hlength : ¬ 8 ≤ (name :: w₁ :: w₂ :: w₃ :: w₄ :: late).length := by
    simp only [List.length_cons]
    omega
  rw [holds_iff, if_neg hlength]
  simp [numberAt_iff]

theorem holds_long_iff :
    Holds (name :: w₁ :: w₂ :: w₃ :: w₄ :: w₅ :: w₆ :: w₇ :: late) t ↔
      natural64? w₁ = some t.user ∧ natural64? w₂ = some t.nice ∧ natural64? w₃ = some t.system ∧
      natural64? w₄ = some t.idle ∧ natural64? w₅ = some t.iowait ∧ natural64? w₆ = some t.irq ∧
      natural64? w₇ = some t.softirq := by
  simp [holds_iff, numberAt_iff]

theorem ticksOfColumns_short (hlate : late.length < 3) :
    ticksOfColumns name (w₁ :: w₂ :: w₃ :: w₄ :: late) = (do
      let user ← ticks name w₁
      let nice ← ticks name w₂
      let system ← ticks name w₃
      let idle ← ticks name w₄
      return { user, nice, system, idle }) := by
  rcases late with _ | ⟨w₅, _ | ⟨w₆, _ | ⟨w₇, more⟩⟩⟩
  · rfl
  · rfl
  · rfl
  · simp only [List.length_cons] at hlate
    omega

theorem ticksOfColumns_short_eq_ok_iff (hlate : late.length < 3) :
    ticksOfColumns name (w₁ :: w₂ :: w₃ :: w₄ :: late) = .ok t ↔
      Holds (name :: w₁ :: w₂ :: w₃ :: w₄ :: late) t := by
  rw [ticksOfColumns_short hlate, holds_short_iff hlate]
  simp only [bind_eq_ok, pure_eq_ok, ticks_eq_ok_iff]
  constructor
  · rintro ⟨user, huser, nice, hnice, system, hsystem, idle, hidle, rfl⟩
    exact ⟨huser, hnice, hsystem, hidle, rfl, rfl, rfl⟩
  · obtain ⟨user, nice, system, idle, iowait, irq, softirq⟩ := t
    rintro ⟨huser, hnice, hsystem, hidle, rfl, rfl, rfl⟩
    exact ⟨user, huser, nice, hnice, system, hsystem, idle, hidle, rfl⟩

theorem ticksOfColumns_long_eq_ok_iff :
    ticksOfColumns name (w₁ :: w₂ :: w₃ :: w₄ :: w₅ :: w₆ :: w₇ :: late) = .ok t ↔
      Holds (name :: w₁ :: w₂ :: w₃ :: w₄ :: w₅ :: w₆ :: w₇ :: late) t := by
  rw [holds_long_iff]
  simp only [ticksOfColumns, bind_eq_ok, pure_eq_ok, ticks_eq_ok_iff]
  constructor
  · rintro ⟨user, huser, nice, hnice, system, hsystem, idle, hidle, iowait, hiowait, irq, hirq,
      softirq, hsoftirq, rfl⟩
    exact ⟨huser, hnice, hsystem, hidle, hiowait, hirq, hsoftirq⟩
  · rintro ⟨huser, hnice, hsystem, hidle, hiowait, hirq, hsoftirq⟩
    exact ⟨_, huser, _, hnice, _, hsystem, _, hidle, _, hiowait, _, hirq, _, hsoftirq, rfl⟩

theorem ticksOfColumns_eq_ok_iff (columns : List (List Char)) :
    ticksOfColumns name columns = .ok t ↔ Holds (name :: columns) t := by
  have hfew (h : columns.length < 4) : ¬ Holds (name :: columns) t := by
    intro hholds
    have hlt := hholds.idle.lt
    rw [List.length_cons] at hlt
    omega
  rcases columns with _ | ⟨w₁, _ | ⟨w₂, _ | ⟨w₃, _ | ⟨w₄, late⟩⟩⟩⟩
  · exact iff_of_false nofun (hfew (by simp))
  · exact iff_of_false nofun (hfew (by simp))
  · exact iff_of_false nofun (hfew (by simp))
  · exact iff_of_false nofun (hfew (by simp))
  · rcases late with _ | ⟨w₅, _ | ⟨w₆, _ | ⟨w₇, more⟩⟩⟩
    · exact ticksOfColumns_short_eq_ok_iff (by simp)
    · exact ticksOfColumns_short_eq_ok_iff (by simp)
    · exact ticksOfColumns_short_eq_ok_iff (by simp)
    · exact ticksOfColumns_long_eq_ok_iff

end Columns

theorem suffix?_eq_some_iff : suffix? name = some suffix ↔ name = "cpu".toList ++ suffix := by
  unfold suffix?
  split
  · simp
  · rename_i hname
    constructor
    · exact nofun
    · rintro rfl
      exact absurd rfl (hname suffix)

theorem ofSuffix?_eq_some_iff : ofSuffix? suffix = some row ↔ Names suffix row := by
  cases suffix with
  | nil =>
    constructor
    · rintro ⟨⟩
      exact .total
    · rintro (_ | ⟨hnumeral, -⟩)
      · rfl
      · exact absurd rfl hnumeral.ne_nil
  | cons c suffix =>
    rw [ofSuffix?, Option.map_eq_some_iff]
    constructor
    · rintro ⟨n, hn, rfl⟩
      obtain ⟨hnumeral, hlt⟩ := natural64?_eq_some_iff.mp hn
      exact .cpu hnumeral hlt
    · rintro (_ | ⟨hnumeral, hlt⟩)
      exact ⟨_, natural64?_eq_some_iff.mpr ⟨hnumeral, hlt⟩, rfl⟩
    · simp

theorem parse?_nil (h : Spells line.toList []) : parse? line = none := by
  rw [parse?, parseChars?, h.words_eq]

theorem parse?_cons (h : Spells line.toList (name :: columns)) :
    parse? line = (suffix? name).map fun suffix =>
      match ofSuffix? suffix with
      | none => .error (.badRowName (String.ofList name))
      | some row => (ticksOfColumns name columns).map (row, ·) := by
  rw [parse?, parseChars?, h.words_eq]
  dsimp only
  cases suffix? name with
  | none => rfl
  | some suffix =>
    dsimp only [Option.map_some]
    cases ofSuffix? suffix <;> rfl

theorem named_cons : Named (name :: columns) suffix ↔ suffix? name = some suffix := by
  simp [Named, suffix?_eq_some_iff]

theorem parse?_eq_none_iff (h : Spells line.toList ws) :
    parse? line = none ↔ ∀ suffix, ¬ Named ws suffix := by
  cases ws with
  | nil => simp [parse?_nil h, Named]
  | cons name columns =>
    rw [parse?_cons h, Option.map_eq_none_iff, Option.eq_none_iff_forall_ne_some]
    simp only [named_cons, ne_eq]

theorem parse?_eq_ok_iff (h : Spells line.toList ws) :
    parse? line = some (.ok (row, t)) ↔
      ∃ suffix, Named ws suffix ∧ Names suffix row ∧ Holds ws t := by
  cases ws with
  | nil => simp [parse?_nil h, Named]
  | cons name columns =>
    simp only [parse?_cons h, named_cons, Option.map_eq_some_iff, ← ofSuffix?_eq_some_iff,
      ← ticksOfColumns_eq_ok_iff]
    refine exists_congr fun suffix => and_congr_right fun _ => ?_
    cases ofSuffix? suffix with
    | none => simp
    | some row' =>
      cases ticksOfColumns name columns with
      | error e => simp [Except.map]
      | ok t' => simp [Except.map]

/-! ## Rows that are accepted -/

/-- A line is read exactly if its words are a row of ticks, and then as the row that it names with
the counters that it holds. It is no row at all if its first word does not start with `cpu`. The
total of what is read is the sum of all counters, up to the largest 64-bit number. -/
theorem accepts_rows_exactly (h : Spells line.toList ws) :
    (parse? line = none ↔ ∀ suffix, ¬ Named ws suffix) ∧
    ((∃ row t, parse? line = some (.ok (row, t))) ↔ IsRow ws) ∧
    ∀ row t, (parse? line = some (.ok (row, t)) ↔
        ∃ suffix, Named ws suffix ∧ Names suffix row ∧ Holds ws t) ∧
      t.total = min (t.user + t.nice + t.system + t.idle + t.iowait + t.irq + t.softirq)
        (2 ^ 64 - 1) := by
  refine ⟨parse?_eq_none_iff h, ?_, fun row t => ⟨parse?_eq_ok_iff h, t.total_eq⟩⟩
  simp only [parse?_eq_ok_iff h]
  constructor
  · rintro ⟨row, t, suffix, hname, hrow, hholds⟩
    exact hholds.isRow hname hrow
  · intro hrow
    obtain ⟨suffix, row, t, hname, hsuffix, hholds⟩ := hrow.exists_holds
    exact ⟨row, t, suffix, hname, hsuffix, hholds⟩

/-- Of seven words the last two are not looked at, but as one of eight words a column that is no
numeral makes the row malformed. The sum of the longest row stops at the largest number. -/
theorem accepts_rows_shorter :
    parse? "cpu 1 2 3 4 x y" = some (.ok (.total, ⟨1, 2, 3, 4, 0, 0, 0⟩)) ∧
    (∀ row t, parse? "cpu 1 2 3 4 x y 7" ≠ some (.ok (row, t))) ∧
    parse? "\t cpu007 18446744073709551615\u2003+1 2 3 4 5 6 x" =
      some (.ok (.cpu 7, ⟨18446744073709551615, 1, 2, 3, 4, 5, 6⟩)) ∧
    (⟨18446744073709551615, 1, 2, 3, 4, 5, 6⟩ : TickRow).total = 18446744073709551615 ∧
    parse? "intr 1 2 3 4" = none := by
  have hnumeral : Numeral false "007".toList 7 := .plain (by decide) (List.all_eq_true.mp rfl)
  have hmalformed : ¬ IsRow (words "cpu 1 2 3 4 x y 7".toList) := by
    intro hrow
    obtain ⟨n, hn⟩ := hrow.late (by decide +kernel) 5 (by decide)
    have hnone : (words "cpu 1 2 3 4 x y 7".toList)[5]?.bind natural64? = none := by
      decide +kernel
    exact nomatch hnone.symm.trans (numberAt_iff.mp hn)
  have hseven := accepts_rows_exactly (spells_words "cpu 1 2 3 4 x y".toList)
  have height := accepts_rows_exactly (spells_words "cpu 1 2 3 4 x y 7".toList)
  have hlong := accepts_rows_exactly
    (spells_words "\t cpu007 18446744073709551615\u2003+1 2 3 4 5 6 x".toList)
  have hintr := accepts_rows_exactly (spells_words "intr 1 2 3 4".toList)
  refine ⟨(hseven.2.2 _ _).1.mpr ?_, fun row t h => hmalformed (height.2.1.mp ⟨row, t, h⟩),
    (hlong.2.2 _ _).1.mpr ?_, (hlong.2.2 .total _).2, hintr.1.mpr ?_⟩
  · refine ⟨[], by decide +kernel, .total, ?_⟩
    constructor <;> decide +kernel
  · refine ⟨"007".toList, by decide +kernel, .cpu hnumeral (by decide), ?_⟩
    constructor <;> decide +kernel
  · intro suffix hname
    have hhead : (words "intr 1 2 3 4".toList).head?.bind List.head? = some 'i' := by
      decide +kernel
    rw [hname] at hhead
    exact absurd hhead (by simp)

end SystemMetrics.Proc.CpuRow
