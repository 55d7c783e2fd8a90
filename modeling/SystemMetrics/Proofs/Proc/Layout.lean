import SystemMetrics.Proofs.Proc.Columns
import SystemMetrics.Simulation.Fixtures

/-!
# Texts of `stat` are read back

A process chooses its command name, which can hold parentheses, line feeds and text that looks like
the columns after it. The columns hold no closing parenthesis, so the last one ends the name, and a
text that shows a process is read back as that process whatever its name is.
-/

namespace SystemMetrics.Proc.Stat

open Text

/-! ## Words after gaps -/

/-- A word of a line and the blanks before it. -/
structure Cell where
  gap : List Char
  word : List Char
  gap_ne : gap ≠ []
  gap_blanks : Blanks gap
  isWord : IsWord word
  noClosing : ')' ∉ word

def Cell.text (cell : Cell) : List Char := cell.gap ++ cell.word

theorem words_cells {word : List Char} (h : IsWord word) (cells : List Cell) :
    words (word ++ cells.flatMap Cell.text) = word :: cells.map Cell.word := by
  induction cells generalizing word with
  | nil =>
    rw [List.flatMap_nil, List.append_nil]
    exact words_of_isWord h
  | cons cell cells ih =>
    obtain ⟨c, gap, hgap⟩ := List.exists_cons_of_ne_nil cell.gap_ne
    have hblanks : Blanks (c :: gap) := hgap ▸ cell.gap_blanks
    have hrest : Blanks gap := fun d hd => hblanks d (List.mem_cons_of_mem c hd)
    -- The first blank of a gap ends the word before it, and the others are skipped.
    rw [List.flatMap_cons, Cell.text, hgap, List.append_assoc, List.cons_append,
      words_append (hblanks c List.mem_cons_self), words_of_isWord h, words_blanks_append hrest,
      ih cell.isWord]
    rfl

theorem noClosing_cells (cells : List Cell) : ')' ∉ cells.flatMap Cell.text := by
  intro h
  obtain ⟨cell, -, hcell⟩ := List.mem_flatMap.mp h
  rcases List.mem_append.mp hcell with hgap | hword
  · exact cell.gap_blanks.notMem (by decide) hgap
  · exact cell.noClosing hword

/-! ## Layouts -/

theorem Column.holds_readType {c : Column} {n : Int} (h : c.type.Holds n) :
    c.readType.Holds n := by
  have hwider (t : IntType) (ht : t ≠ .nat64) (hn : t.Holds n) : IntType.int64.Holds n := by
    cases t with
    | nat64 => exact absurd rfl ht
    | nat32 | int32 | int64 =>
      simp only [IntType.Holds, IntType.least, IntType.bound] at hn ⊢
      omega
  rw [Column.readType]
  by_cases hc : c.type = .nat64
  · rw [if_pos hc]
    exact hc ▸ h
  · rw [if_neg hc]
    exact hwider c.type hc h

/-- What surrounds the values of a process in a text that shows them: blanks, and words that no
column that is used takes. -/
structure Layout (stat : Stat) where
  leading : List Char
  beforeName : List Char
  afterName : List Char
  cells : List Cell
  trailing : List Char
  leading_blanks : Blanks leading
  beforeName_blanks : Blanks beforeName
  afterName_blanks : Blanks afterName
  trailing_blanks : Blanks trailing
  pid_holds : IntType.nat32.Holds stat.pid
  state_isWord : IsWord [stat.state]
  state_ne : stat.state ≠ ')'
  length_cells : 21 ≤ cells.length
  shown (c : Column) : Numeral c.readType.signed
    (c.text ([stat.state] :: cells.map Cell.word)) (c.value stat)
  holds (c : Column) : c.type.Holds (c.value stat)

/-- A process number and a command name between the parts of a text around them. -/
def textOf (before : List Char) (comm : String) (after : List Char) : String :=
  String.ofList (before ++ '(' :: (comm.toList ++ ')' :: after))

theorem numeral_pid (stat : Stat) : Numeral false (toString stat.pid).toList stat.pid :=
  numeral_toString stat.pid (.inl (Int.natCast_nonneg _))

namespace Layout

variable {stat : Stat} (l : Layout stat)

def before : List Char := l.leading ++ (toString stat.pid).toList ++ l.beforeName

def after : List Char := l.afterName ++ (stat.state :: l.cells.flatMap Cell.text) ++ l.trailing

def text : String := textOf l.before stat.comm l.after

theorem framed (comm : String) :
    Framed (textOf l.before comm l.after).toList l.before comm.toList l.after := by
  refine ⟨String.toList_ofList, ?_, ?_⟩
  · have hpid := numeral_notMem stat.numeral_pid (.inr (.inl rfl))
    exact List.not_mem_append
      (List.not_mem_append (l.leading_blanks.notMem (by decide)) hpid)
      (l.beforeName_blanks.notMem (by decide))
  · have hcells : ')' ∉ stat.state :: l.cells.flatMap Cell.text :=
      List.not_mem_cons_of_ne_of_not_mem (Ne.symm l.state_ne) (noClosing_cells l.cells)
    exact List.not_mem_append
      (List.not_mem_append (l.afterName_blanks.notMem (by decide)) hcells)
      (l.trailing_blanks.notMem (by decide))

theorem words_after : words l.after = [stat.state] :: l.cells.map Cell.word := by
  rw [after, words_append_blanks l.trailing_blanks, words_blanks_append l.afterName_blanks]
  exact words_cells l.state_isWord l.cells

theorem ofFrame_eq : ofFrame l.before stat.comm.toList l.after = .ok stat := by
  have hpid : natural? word32 (trim l.before) = some stat.pid := by
    rw [before, trim_word (numeral_isWord stat.numeral_pid) l.leading_blanks l.beforeName_blanks]
    exact (natural?_eq_some_iff (by decide)).mpr ⟨stat.numeral_pid, Int.ofNat_lt.mp l.pid_holds.2⟩
  refine ofFrame_eq_ok_iff.mpr ⟨hpid, ofColumns_eq_ok_iff.mpr ?_⟩
  rw [l.words_after, String.ofList_toList]
  refine ⟨?_, rfl, rfl, rfl, fun c => ⟨c.value stat, ?_, ?_⟩⟩
  · rw [List.length_cons, List.length_map]
    exact Nat.succ_le_succ l.length_cells
  · exact IntType.read?_eq_some_iff.mpr ⟨l.shown c, Column.holds_readType (l.holds c)⟩
  · exact (IntType.wrap_eq_iff.mpr (l.holds c)).symm

/-- The same surroundings, for a process of another name. -/
def rename (comm : String) : Layout { stat with comm } where
  leading := l.leading
  beforeName := l.beforeName
  afterName := l.afterName
  cells := l.cells
  trailing := l.trailing
  leading_blanks := l.leading_blanks
  beforeName_blanks := l.beforeName_blanks
  afterName_blanks := l.afterName_blanks
  trailing_blanks := l.trailing_blanks
  pid_holds := l.pid_holds
  state_isWord := l.state_isWord
  state_ne := l.state_ne
  length_cells := l.length_cells
  shown c := by cases c <;> exact l.shown _
  holds c := by cases c <;> exact l.holds _

theorem parse_text : parse l.text = .ok stat := by
  have hframed := parseChars_framed (l.framed stat.comm)
  rw [parse, text, hframed, ofFrame_eq]

end Layout

/-! ## Printed numbers -/

theorem signed_toString (n : Int) : Numeral true (toString n).toList n :=
  numeral_toString n (.inr rfl)

def Cell.ofNumber (n : Int) : Cell where
  gap := [' ']
  word := (toString n).toList
  gap_ne := List.cons_ne_nil _ _
  gap_blanks := by decide
  isWord := numeral_isWord (signed_toString n)
  noClosing := numeral_notMem (signed_toString n) (.inr (.inr rfl))

/-- Each number after one space. -/
def spaced (numbers : List Int) : List Char := (numbers.map Cell.ofNumber).flatMap Cell.text

theorem spaced_append (numbers more : List Int) :
    spaced (numbers ++ more) = spaced numbers ++ spaced more := by
  rw [spaced, List.map_append, List.flatMap_append]
  rfl

theorem Column.numeral_toString {c : Column} {n : Int} (h : c.type.Holds n) :
    Numeral c.readType.signed (toString n).toList n := by
  refine Text.numeral_toString n ?_
  rw [readType]
  by_cases hc : c.type = .nat64
  · rw [hc] at h
    exact .inl h.1
  · rw [if_neg hc]
    exact .inr rfl

def Layout.ofNumbers (stat : Stat) (numbers : List Int)
    (hpid : IntType.nat32.Holds stat.pid) (hstate : IsWord [stat.state]) (hne : stat.state ≠ ')')
    (hlength : 21 ≤ numbers.length)
    (hnumbers : ∀ c : Column, numbers[c.index - 1]? = some (c.value stat))
    (hholds : ∀ c : Column, c.type.Holds (c.value stat)) : Layout stat where
  leading := []
  beforeName := [' ']
  afterName := [' ']
  cells := numbers.map Cell.ofNumber
  trailing := []
  leading_blanks := by decide
  beforeName_blanks := by decide
  afterName_blanks := by decide
  trailing_blanks := by decide
  pid_holds := hpid
  state_isWord := hstate
  state_ne := hne
  length_cells := by rwa [List.length_map]
  shown c := by
    have hindex : c.index = c.index - 1 + 1 := by cases c <;> rfl
    have htext : c.text ([stat.state] :: (numbers.map Cell.ofNumber).map Cell.word) =
        (toString (c.value stat)).toList := by
      rw [Column.text, hindex, List.getElem?_cons_succ, List.getElem?_map, List.getElem?_map,
        hnumbers c]
      rfl
    rw [htext]
    exact Column.numeral_toString (hholds c)
  holds := hholds

theorem parse_numbers (stat : Stat) {numbers : List Int}
    (hpid : IntType.nat32.Holds stat.pid) (hstate : IsWord [stat.state]) (hne : stat.state ≠ ')')
    (hlength : 21 ≤ numbers.length)
    (hnumbers : ∀ c : Column, numbers[c.index - 1]? = some (c.value stat))
    (hholds : ∀ c : Column, c.type.Holds (c.value stat)) :
    parse (textOf ((toString stat.pid).toList ++ [' ']) stat.comm
      (' ' :: stat.state :: spaced numbers)) = .ok stat := by
  have hparse := (Layout.ofNumbers stat numbers hpid hstate hne hlength hnumbers hholds).parse_text
  have hafter : [' '] ++ (stat.state :: spaced numbers) ++ [] =
      ' ' :: stat.state :: spaced numbers := List.append_nil _
  rw [← hafter]
  exact hparse

section StatLine

variable (pid : Nat) (comm : String) (state : Char) (userTicks systemTicks startTicks : Nat)

/-- The process that `Fixtures.statLine` shows. -/
def ofStatLine : Stat :=
  { pid, comm, state, userTicks, systemTicks, startTicks
    ppid := 1, pgrp := pid, session := pid, ttyNr := 34816, majorFaults := 3
    childUserTicks := 7, childSystemTicks := 2, priority := 20, nice := 0, threads := 1
    virtualSize := 12345678, residentPages := 300 }

def statLineNumbers : List Int :=
  [1] ++ [(pid : Int)] ++ [(pid : Int)] ++ [34816, -1, 4194304, 500, 0, 3, 0]
    ++ [(userTicks : Int)] ++ [(systemTicks : Int)] ++ [7, 2, 20, 0, 1, 0] ++ [(startTicks : Int)]
    ++ [12345678, 300, 18446744073709551615, 0, 0, 0, 0, 0, 0, 0, 0, 0, 0, 0, 0, 17,
        0, 0, 0, 0, 0, 0, 0, 0, 0, 0, 0, 0, 0, 0]

variable {pid comm state userTicks systemTicks startTicks}

theorem statLine_numbers (c : Column) :
    (statLineNumbers pid userTicks systemTicks startTicks)[c.index - 1]? =
      some (c.value (ofStatLine pid comm state userTicks systemTicks startTicks)) := by
  cases c <;> rfl

theorem statLine_holds (hpid : pid ≤ 0x7FFFFFFF) (huser : userTicks < word64)
    (hsystem : systemTicks < word64) (hstart : startTicks < word64) (c : Column) :
    c.type.Holds (c.value (ofStatLine pid comm state userTicks systemTicks startTicks)) := by
  cases c
  case pgrp | session =>
    exact ⟨Int.le_trans (by decide) (Int.natCast_nonneg pid),
      Int.ofNat_lt.mpr (Nat.lt_succ_of_le hpid)⟩
  case ppid => exact IntType.holds_nat32 (show 1 < word32 by decide)
  case majorFaults => exact IntType.holds_nat64 (show 3 < word64 by decide)
  case userTicks => exact IntType.holds_nat64 huser
  case systemTicks => exact IntType.holds_nat64 hsystem
  case startTicks => exact IntType.holds_nat64 hstart
  case virtualSize => exact IntType.holds_nat64 (show 12345678 < word64 by decide)
  all_goals exact of_decide_eq_true rfl

theorem spaced_singleton (n : Nat) : spaced [(n : Int)] = ' ' :: (toString n).toList :=
  congrArg (' ' :: ·) (List.append_nil (toString n).toList)

theorem statLine_eq :
    Fixtures.statLine pid comm state userTicks systemTicks startTicks =
      textOf ((toString pid).toList ++ [' ']) comm
        (' ' :: state :: spaced (statLineNumbers pid userTicks systemTicks startTicks)) := by
  have hone : " 1 ".toList = spaced [1] ++ [' '] := by decide +kernel
  have hfirst : " 34816 -1 4194304 500 0 3 0 ".toList =
      spaced [34816, -1, 4194304, 500, 0, 3, 0] ++ [' '] := by decide +kernel
  have hnext : " 7 2 20 0 1 0 ".toList = spaced [7, 2, 20, 0, 1, 0] ++ [' '] := by decide +kernel
  have hlast : spaced [12345678, 300, 18446744073709551615, 0, 0, 0, 0, 0, 0, 0, 0, 0, 0, 0, 0, 17,
        0, 0, 0, 0, 0, 0, 0, 0, 0, 0, 0, 0, 0, 0] = String.toList
      " 12345678 300 18446744073709551615 0 0 0 0 0 0 0 0 0 0 0 0 17 0 0 0 0 0 0 0 0 0 0 0 0 0 0" :=
    by decide +kernel
  have hopening : " (".toList = [' ', '('] := rfl
  have hclosing : ") ".toList = [')', ' '] := rfl
  have hblank : " ".toList = [' '] := rfl
  rw [← String.toList_inj, textOf]
  unfold Fixtures.statLine
  simp only [String.toList_append, String.toList_ofList, hone, hfirst, hnext,
    ← hlast, hopening, hclosing, hblank, statLineNumbers, spaced_append, spaced_singleton]
  simp only [List.append_assoc, List.cons_append, List.nil_append]

theorem parse_statLine (hpid : pid ≤ 0x7FFFFFFF) (hblank : isBlank state = false)
    (hne : state ≠ ')') (huser : userTicks < word64) (hsystem : systemTicks < word64)
    (hstart : startTicks < word64) :
    parse (Fixtures.statLine pid comm state userTicks systemTicks startTicks) =
      .ok (ofStatLine pid comm state userTicks systemTicks startTicks) := by
  have hholds : IntType.nat32.Holds pid :=
    IntType.holds_nat32 (Nat.lt_of_le_of_lt hpid (by decide))
  have hstate : IsWord [state] :=
    ⟨List.cons_ne_nil _ _, fun c hc => List.mem_singleton.mp hc ▸ hblank⟩
  have hlength : 21 ≤ (statLineNumbers pid userTicks systemTicks startTicks).length :=
    Nat.le_of_ble_eq_true rfl
  rw [statLine_eq]
  exact parse_numbers (ofStatLine pid comm state userTicks systemTicks startTicks) hholds
    hstate hne hlength statLine_numbers (statLine_holds hpid huser hsystem hstart)

end StatLine

/-- A text that shows a process is read back as that process. If only the command name of the text
is changed, only the command name of the result changes. -/
theorem parse_undoes_layout :
    (∀ (stat : Stat) (l : Layout stat), parse l.text = .ok stat) ∧
    (∀ (stat : Stat) (l : Layout stat) (comm : String),
      parse (textOf l.before comm l.after) = .ok { stat with comm }) ∧
    ∀ (pid : Nat) (comm : String) (state : Char) (userTicks systemTicks startTicks : Nat),
      pid ≤ 0x7FFFFFFF → isBlank state = false → state ≠ ')' →
      userTicks < word64 → systemTicks < word64 → startTicks < word64 →
      parse (Fixtures.statLine pid comm state userTicks systemTicks startTicks) =
        .ok (ofStatLine pid comm state userTicks systemTicks startTicks) :=
  ⟨fun _ l => l.parse_text, fun _ l comm => (l.rename comm).parse_text,
    fun _ _ _ _ _ _ => parse_statLine⟩

/-- A process whose name looks like the columns after it. -/
def misleading : Stat :=
  { pid := 42, comm := ") S 1 2 (x\n)", state := 'R', ppid := 7, pgrp := 42, session := 42
    majorFaults := 3, userTicks := 10, systemTicks := 5, priority := 20, nice := -5, threads := 2
    startTicks := 100, virtualSize := 4096, residentPages := 12 }

def misleadingNumbers : List Int :=
  [7, 42, 42, 0, -1, 0, 0, 0, 3, 0, 10, 5, 0, 0, 20, -5, 2, 0, 100, 4096, 12, 0]

def misleadingLayout : Layout misleading :=
  { Layout.ofNumbers misleading misleadingNumbers (by decide) (by decide) (by decide) (by decide)
      (fun c => by cases c <;> rfl) (fun c => by cases c <;> decide) with
    leading := [' ', '\n']
    trailing := ['\n', '\n']
    leading_blanks := by decide
    trailing_blanks := by decide }

theorem parse_undoes_layout_misleading :
    misleadingLayout.text =
      " \n42 () S 1 2 (x\n)) R 7 42 42 0 -1 0 0 0 3 0 10 5 0 0 20 -5 2 0 100 4096 12 0\n\n" ∧
    parse misleadingLayout.text = .ok misleading ∧
    parse (textOf misleadingLayout.before "sh" misleadingLayout.after) =
      .ok { misleading with comm := "sh" } ∧
    parse (Fixtures.statLine 1234 "a) b (" 'S' 10 5 12345) =
      .ok (ofStatLine 1234 "a) b (" 'S' 10 5 12345) :=
  ⟨by decide +kernel, parse_undoes_layout.1 misleading misleadingLayout,
    parse_undoes_layout.2.1 misleading misleadingLayout "sh",
    parse_undoes_layout.2.2 1234 "a) b (" 'S' 10 5 12345 (by decide) (by decide) (by decide)
      (by decide) (by decide) (by decide)⟩

end SystemMetrics.Proc.Stat
