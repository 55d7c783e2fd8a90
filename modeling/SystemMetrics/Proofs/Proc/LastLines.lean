import SystemMetrics.Proofs.MemoryFigures
import SystemMetrics.Proofs.Paging
import SystemMetrics.Proofs.Text.Lines
import SystemMetrics.Simulation.Fixtures

/-!
# The lines that decide

Each field that is read from lines with keys is decided by one line of its key, the last one, and
all other lines count for nothing. What a value that is no number does to its line differs: in
`meminfo` it is then no line of its key, in `vmstat` it makes the text unreadable, and in `io` it
counts as zero.
-/

namespace SystemMetrics.Proc

open Text

/-! ## Last lines -/

/-- A text is a numeral of `n`, and `n` fits 64 bits. -/
def IsNumber (text : List Char) (n : Nat) : Prop := Numeral false text n ∧ n < word64

/-- The last line that gives a text gives a number. -/
def LastNumber (gives : List Char → List Char → Prop) (ls : List (List Char)) (n : Nat) : Prop :=
  ∃ text, LastGives gives ls text ∧ IsNumber text n

/-- No line gives a text, or the last one that does gives no number. -/
def NoNumber (gives : List Char → List Char → Prop) (ls : List (List Char)) : Prop :=
  NoneGives gives ls ∨ ∃ text, LastGives gives ls text ∧ ∀ n, ¬ IsNumber text n

variable {α β : Type} {ls ls' : List (List Char)} {n : Nat}

section

variable {f : List Char → Option (List Char)} {gives : List Char → List Char → Prop}

theorem natural64?_eq_none_iff {text : List Char} :
    natural64? text = none ↔ ∀ n, ¬ IsNumber text n := by
  simp only [Option.eq_none_iff_forall_ne_some, ne_eq, natural64?_eq_some_iff, IsNumber]

theorem lastNumber_iff (h : ∀ line v, f line = some v ↔ gives line v) :
    (ls.filterMap f).getLast?.bind natural64? = some n ↔ LastNumber gives ls n := by
  simp only [Option.bind_eq_some_iff, getLast?_eq_some_iff_lastGives h, natural64?_eq_some_iff,
    LastNumber, IsNumber]

theorem noNumber_iff (h : ∀ line v, f line = some v ↔ gives line v) :
    (ls.filterMap f).getLast?.bind natural64? = none ↔ NoNumber gives ls := by
  rw [NoNumber, ← getLast?_eq_none_iff_noneGives h]
  simp only [← getLast?_eq_some_iff_lastGives h, ← natural64?_eq_none_iff]
  cases (ls.filterMap f).getLast? <;> simp

end

/-! ## Lines in another order -/

theorem length_filterMap_le_count {key : List Char → Option (List Char)}
    {f : List Char → Option β} {k : List Char}
    (hkey : ∀ line v, f line = some v → key line = some k) (ls : List (List Char)) :
    (ls.filterMap f).length ≤ (ls.filterMap key).count k := by
  induction ls with
  | nil => exact Nat.le_refl 0
  | cons line ls ih =>
    cases hline : f line with
    | none =>
      rw [List.filterMap_cons_none hline]
      exact ih.trans (((List.sublist_cons_self line ls).filterMap key).count_le k)
    | some v =>
      rw [List.filterMap_cons_some hline, List.filterMap_cons_some (hkey line v hline),
        List.count_cons_self]
      exact Nat.succ_le_succ ih

/-- What is read from the lines of one key does not depend on the order of lines, if no two lines
have one key. -/
theorem filterMap_eq_of_perm {key : List Char → Option (List Char)} {f : List Char → Option β}
    {k : List Char} (hkey : ∀ line v, f line = some v → key line = some k) (hperm : ls.Perm ls')
    (hnodup : (ls.filterMap key).Nodup) : ls.filterMap f = ls'.filterMap f := by
  have hperm := hperm.filterMap f
  have hcount := (length_filterMap_le_count hkey ls).trans (List.nodup_iff_count_le_one.mp hnodup k)
  match hread : ls.filterMap f with
  | [] =>
    rw [hread] at hperm
    exact hperm.nil_eq
  | [v] =>
    rw [hread] at hperm
    exact (List.perm_singleton.mp hperm.symm).symm
  | v :: w :: more =>
    rw [hread] at hcount
    simp at hcount

/-! ## Lines with keys -/

/-- A line begins with a key and has a second word. -/
def Pairs (key : String) (line value : List Char) : Prop :=
  ∃ rest, Spells line (key.toList :: value :: rest)

/-- A line begins with a key, and its second word is a number. -/
def PairsNumber (key : String) (line : List Char) (n : Nat) : Prop :=
  ∃ value, Pairs key line value ∧ IsNumber value n

/-- Between blanks, a line has a key before its first colon and a value after it. -/
def Assigns (key : String) (line value : List Char) : Prop :=
  ∃ before after, line = before ++ ':' :: after ∧ ':' ∉ before ∧ trim before = key.toList ∧
    trim after = value

/-- The key of a line that may pair it with a value. -/
def pairedKey? (line : List Char) : Option (List Char) := (words line).head?

/-- The key of a line that may assign a value to it. -/
def assignedKey? (line : List Char) : Option (List Char) :=
  (cut ':' line).map fun (before, _) => trim before

variable {key : String} {line value : List Char}

theorem pairs_iff :
    PagingCounters.valueOn? key.toList line = some value ↔ Pairs key line value := by
  unfold PagingCounters.valueOn? Pairs
  simp only [spells_iff]
  rcases words line with _ | ⟨first, _ | ⟨second, rest⟩⟩
  · simp
  · simp
  · by_cases hfirst : first = key.toList <;> simp [hfirst]

theorem pairsNumber_iff {k : Meminfo.Key} :
    Meminfo.numberOn? k line = some n ↔ PairsNumber (k.name ++ ":") line n := by
  simp only [PairsNumber, ← pairs_iff, IsNumber, ← natural64?_eq_some_iff,
    ← Option.bind_eq_some_iff]
  change _ ↔ (PagingCounters.valueOn? k.word line).bind natural64? = some n
  unfold Meminfo.numberOn? PagingCounters.valueOn?
  rcases words line with _ | ⟨first, _ | ⟨second, rest⟩⟩
  · simp
  · simp
  · by_cases hfirst : first = k.word <;> simp [hfirst]

theorem assigns_iff : Io.valueOn? key.toList line = some value ↔ Assigns key line value := by
  unfold Io.valueOn? Assigns
  constructor
  · intro h
    split at h
    · rename_i before after hcut
      obtain ⟨rfl, hnot⟩ := cut_eq_some_iff.mp hcut
      obtain ⟨hkey, hvalue⟩ := Option.ite_none_right_eq_some.mp h
      exact ⟨before, after, rfl, hnot, hkey, Option.some.inj hvalue⟩
    · cases h
  · rintro ⟨before, after, rfl, hnot, hkey, rfl⟩
    simp only [cut_append hnot, if_pos hkey]

theorem pairedKey?_eq (h : Pairs key line value) : pairedKey? line = some key.toList := by
  obtain ⟨rest, hspells⟩ := h
  rw [pairedKey?, hspells.words_eq]
  rfl

theorem assignedKey?_eq (h : Assigns key line value) : assignedKey? line = some key.toList := by
  obtain ⟨before, after, rfl, hnot, hkey, -⟩ := h
  rw [assignedKey?, cut_append hnot]
  exact congrArg some hkey

/-! ## Memory figures -/

namespace Meminfo

variable {content content' : String} {k : Key}

theorem number?_eq_some_iff_lastGives :
    number? k content = some n ↔ LastGives (PairsNumber (k.name ++ ":")) (lines content.toList) n :=
  getLast?_eq_some_iff_lastGives fun _ _ => pairsNumber_iff

theorem number?_eq_none_iff :
    number? k content = none ↔ NoneGives (PairsNumber (k.name ++ ":")) (lines content.toList) :=
  getLast?_eq_none_iff_noneGives fun _ _ => pairsNumber_iff

/-- What a figure is where no line has a number for it. -/
theorem get_empty_eq_some_iff : k.get {} = some n ↔ k ∉ Key.mandatory ∧ n = 0 := by
  cases k <;> simp [Key.get, Key.mandatory, eq_comm]

theorem get_parse_eq_some_iff : k.get (parse content) = some n ↔
    LastGives (PairsNumber (k.name ++ ":")) (lines content.toList) n ∨
      NoneGives (PairsNumber (k.name ++ ":")) (lines content.toList) ∧ k ∉ Key.mandatory ∧
        n = 0 := by
  rw [get_parse, ← number?_eq_some_iff_lastGives, ← number?_eq_none_iff, ← get_empty_eq_some_iff]
  cases number? k content <;> simp

theorem ext_get {info info' : Meminfo} (h : ∀ k : Key, k.get info = k.get info') :
    info = info' := by
  cases info
  cases info'
  simpa [Key.get] using And.intro (h .memTotal) <| And.intro (h .memFree) <|
    And.intro (h .buffers) <| And.intro (h .cached) <| And.intro (h .swapTotal) (h .swapFree)

theorem parse_eq_of_perm (hperm : (lines content.toList).Perm (lines content'.toList))
    (hnodup : ((lines content.toList).filterMap pairedKey?).Nodup) :
    parse content = parse content' := by
  refine ext_get fun k => ?_
  have hkey (line : List Char) (n : Nat) (h : numberOn? k line = some n) :
      pairedKey? line = some k.word := by
    obtain ⟨value, hpairs, -⟩ := pairsNumber_iff.mp h
    exact pairedKey?_eq hpairs
  rw [get_parse, get_parse, number?, number?, filterMap_eq_of_perm hkey hperm hnodup]

end Meminfo

/-! ## Paging counters -/

namespace PagingCounters

variable {content content' : String}

theorem lastNumber?_eq_some_iff :
    lastNumber? key content = some n ↔ LastNumber (Pairs key) (lines content.toList) n :=
  lastNumber_iff fun _ _ => pairs_iff

theorem lastNumber?_eq_none_iff :
    lastNumber? key content = none ↔ NoNumber (Pairs key) (lines content.toList) :=
  noNumber_iff fun _ _ => pairs_iff

theorem parse_eq_ok_iff {pagesIn pagesOut : Nat} : parse content = .ok ⟨pagesIn, pagesOut⟩ ↔
    LastNumber (Pairs "pgpgin") (lines content.toList) pagesIn ∧
      LastNumber (Pairs "pgpgout") (lines content.toList) pagesOut := by
  simp only [← lastNumber?_eq_some_iff, parse_eq]
  cases lastNumber? "pgpgin" content <;> cases lastNumber? "pgpgout" content <;>
    simp

theorem parse_eq_error_iff {error : ParseError} : parse content = .error error ↔
    error = .noPagingCounters ∧ (NoNumber (Pairs "pgpgin") (lines content.toList) ∨
      NoNumber (Pairs "pgpgout") (lines content.toList)) := by
  simp only [← lastNumber?_eq_none_iff, parse_eq]
  cases lastNumber? "pgpgin" content <;> cases lastNumber? "pgpgout" content <;> simp [eq_comm]

theorem parse_eq_of_perm (hperm : (lines content.toList).Perm (lines content'.toList))
    (hnodup : ((lines content.toList).filterMap pairedKey?).Nodup) :
    parse content = parse content' := by
  have hlast (key : String) : lastNumber? key content = lastNumber? key content' := by
    have hkey (line value : List Char) (h : valueOn? key.toList line = some value) :
        pairedKey? line = some key.toList := pairedKey?_eq (pairs_iff.mp h)
    rw [lastNumber?, lastNumber?, filterMap_eq_of_perm hkey hperm hnodup]
  rw [parse_eq, parse_eq, hlast, hlast]

end PagingCounters

/-! ## Counters of calls -/

namespace Io

variable {content content' : String}

theorem counter_eq_iff : counter key content = n ↔
    LastNumber (Assigns key) (lines content.toList) n ∨
      NoNumber (Assigns key) (lines content.toList) ∧ n = 0 := by
  rw [counter_eq_getD, ← lastNumber_iff fun _ _ => assigns_iff,
    ← noNumber_iff fun _ _ => assigns_iff, ← lastValue?]
  cases (lastValue? key content).bind natural64? <;> simp [eq_comm]

theorem parse_eq_of_perm (hperm : (lines content.toList).Perm (lines content'.toList))
    (hnodup : ((lines content.toList).filterMap assignedKey?).Nodup) :
    parse content = parse content' := by
  have hcounter (key : String) : counter key content = counter key content' := by
    have hkey (line value : List Char) (h : valueOn? key.toList line = some value) :
        assignedKey? line = some key.toList := assignedKey?_eq (assigns_iff.mp h)
    rw [counter, counter, lastValue?, lastValue?, filterMap_eq_of_perm hkey hperm hnodup]
  rw [parse_eq, parse_eq, hcounter, hcounter]

/-- A line with a key and a value, with a blank between them. -/
def row (key value : String) : List Char := key.toList ++ ':' :: ' ' :: value.toList

theorem valueOn?_row {name value : String} (hcolon : ':' ∉ name.toList)
    (hname : IsWord name.toList) (hvalue : IsWord value.toList) (key : List Char) :
    valueOn? key (row name value) = if name.toList = key then some value.toList else none := by
  have hblank : Blanks [' '] := by decide
  have htrim := trim_word hname blanks_nil blanks_nil
  have htrimValue := trim_word hvalue hblank blanks_nil
  simp only [List.nil_append, List.append_nil, List.singleton_append] at htrim htrimValue
  simp only [valueOn?, row, cut_append hcolon, htrim, htrimValue]

theorem valueOn?_dropReturn (key line : List Char) :
    valueOn? key (dropReturn line) = valueOn? key line := by
  have hblank : Blanks ['\r'] := by decide
  have hreturn : '\r' ≠ ':' := by decide
  rcases dropReturn_cases line with heq | heq
  · rw [heq]
  · conv => rhs; rw [heq]
    unfold valueOn?
    rw [cut_append_singleton hreturn]
    cases cut ':' (dropReturn line) with
    | none => rfl
    | some parts => simp only [Option.map_some, trim_append_blanks hblank]

theorem newline_notMem_row {name value : String} (hname : IsWord name.toList)
    (hvalue : IsWord value.toList) : '\n' ∉ row name value := by
  have hblank {word : List Char} (h : IsWord word) : '\n' ∉ word :=
    fun hmem => absurd (h.2 _ hmem) (by decide)
  simp [row, hblank hname, hblank hvalue]

/-- What a text of such lines has for a key. -/
theorem lastValue?_rows {rows : List (String × String)}
    (hrows : ∀ r ∈ rows, ':' ∉ r.1.toList ∧ IsWord r.1.toList ∧ IsWord r.2.toList) (key : String) :
    lastValue? key (joined (rows.map (fun r => row r.1 r.2) ++ [[]])) =
      ((rows.filter fun r => r.1 = key).map fun r => r.2.toList).getLast? := by
  have hlines : ∀ l ∈ rows.map (fun r => row r.1 r.2) ++ [[]], '\n' ∉ l := by
    intro l hl
    rcases List.mem_append.mp hl with hrow | hlast
    · obtain ⟨r, hr, rfl⟩ := List.mem_map.mp hrow
      obtain ⟨-, hname, hvalue⟩ := hrows r hr
      exact newline_notMem_row hname hvalue
    · rw [List.mem_singleton.mp hlast]
      exact List.not_mem_nil
  have hempty : valueOn? key.toList [] = none := rfl
  rw [lastValue?, lines_joined (List.append_ne_nil_of_right_ne_nil _ (List.cons_ne_nil _ _)) hlines,
    filterMap_linesOfPieces (valueOn?_dropReturn key.toList) hempty, List.filterMap_append,
    List.filterMap_cons_none hempty, List.filterMap_nil, List.append_nil, List.filterMap_map,
    ← List.filterMap_eq_map, ← List.filterMap_eq_filter, List.filterMap_filterMap]
  refine congrArg List.getLast? (List.filterMap_congr fun r hr => ?_)
  obtain ⟨hcolon, hname, hvalue⟩ := hrows r hr
  rw [Function.comp_apply, valueOn?_row hcolon hname hvalue]
  by_cases hkey : r.1 = key <;> simp [hkey, String.toList_inj, Option.guard]

/-- The rows of a text with the given numbers of calls. -/
def callRows (readCalls writeCalls : Nat) : List (String × String) :=
  [("rchar", "1000"), ("wchar", "500"), ("syscr", toString readCalls),
    ("syscw", toString writeCalls), ("read_bytes", "4096"), ("write_bytes", "2048"),
    ("cancelled_write_bytes", "0")]

theorem ioContent_eq (readCalls writeCalls : Nat) :
    Fixtures.ioContent readCalls writeCalls =
      joined ((callRows readCalls writeCalls).map (fun r => row r.1 r.2) ++ [[]]) := by
  have hbegin : "rchar: 1000\nwchar: 500\nsyscr: ".toList = row "rchar" "1000" ++
      '\n' :: row "wchar" "500" ++ '\n' :: "syscr".toList ++ [':', ' '] := by
    decide +kernel
  have hmiddle : "\nsyscw: ".toList = '\n' :: "syscw".toList ++ [':', ' '] := by decide
  have hend : "\nread_bytes: 4096\nwrite_bytes: 2048\ncancelled_write_bytes: 0\n".toList =
      '\n' :: row "read_bytes" "4096" ++ '\n' :: row "write_bytes" "2048" ++
        '\n' :: row "cancelled_write_bytes" "0" ++ ['\n'] := by decide +kernel
  refine String.toList_inj.mp (Eq.trans ?_ (toList_joined _).symm)
  -- The equation that unfolding would make is proved by evaluating the whole text.
  delta Fixtures.ioContent
  simp only [String.toList_append, hbegin, hmiddle, hend, callRows, row, List.map_cons,
    List.map_nil, List.intercalate, List.intersperse, List.flatten_cons, List.flatten_nil,
    List.append_assoc, List.cons_append, List.nil_append, List.append_nil]

theorem callRows_words (readCalls writeCalls : Nat) : ∀ r ∈ callRows readCalls writeCalls,
    ':' ∉ r.1.toList ∧ IsWord r.1.toList ∧ IsWord r.2.toList := by
  have hword (n : Nat) : IsWord (toString n).toList :=
    numeral_isWord (numeral_toString n (.inl (Int.natCast_nonneg n)) : Numeral false _ _)
  have hnames : ∀ r ∈ callRows readCalls writeCalls, ':' ∉ r.1.toList ∧ IsWord r.1.toList := by
    simp only [callRows, List.forall_mem_cons, List.not_mem_nil, false_imp_iff, implies_true]
    decide
  have hvalues : ∀ r ∈ callRows readCalls writeCalls, IsWord r.2.toList := by
    simp only [callRows, List.forall_mem_cons, hword, true_and, List.not_mem_nil, false_imp_iff,
      implies_true, and_true]
    decide
  exact fun r hr => ⟨(hnames r hr).1, (hnames r hr).2, hvalues r hr⟩

theorem number_toString (n : UInt64) : number (toString n.toNat).toList = n.toNat := by
  have hnumeral : Numeral false (toString n.toNat).toList n.toNat :=
    numeral_toString n.toNat (.inl (Int.natCast_nonneg _))
  rw [number, natural64?_eq_some_iff.mpr ⟨hnumeral, n.toNat_lt⟩, Option.getD_some]

/-- A text that is written for two numbers is read as these. -/
theorem parse_ioContent (readCalls writeCalls : UInt64) :
    parse (Fixtures.ioContent readCalls.toNat writeCalls.toNat) =
      ⟨readCalls.toNat, writeCalls.toNat⟩ := by
  rw [parse_eq, ioContent_eq, counter, counter, lastValue?_rows (callRows_words _ _),
    lastValue?_rows (callRows_words _ _)]
  have hread : (callRows readCalls.toNat writeCalls.toNat).filter (fun r => r.1 = "syscr") =
      [("syscr", toString readCalls.toNat)] := rfl
  have hwrite : (callRows readCalls.toNat writeCalls.toNat).filter (fun r => r.1 = "syscw") =
      [("syscw", toString writeCalls.toNat)] := rfl
  rw [hread, hwrite]
  exact congr (congrArg mk (number_toString readCalls)) (number_toString writeCalls)

end Io

/-! ## All three kinds of text -/

/-- Every field is what the last line of its key says: in `meminfo` the last one with a number, in
`vmstat` and `io` the last one whatever its value, which has to be a number in `vmstat` and counts
as zero in `io` where it is none. So lines whose keys differ may stand in any order. -/
theorem last_lines_decide (content : String) :
    (∀ (k : Meminfo.Key) (n : Nat), k.get (Meminfo.parse content) = some n ↔
      LastGives (PairsNumber (k.name ++ ":")) (lines content.toList) n ∨
        NoneGives (PairsNumber (k.name ++ ":")) (lines content.toList) ∧
          k ∉ Meminfo.Key.mandatory ∧ n = 0) ∧
    (∀ pagesIn pagesOut, PagingCounters.parse content = .ok ⟨pagesIn, pagesOut⟩ ↔
      LastNumber (Pairs "pgpgin") (lines content.toList) pagesIn ∧
        LastNumber (Pairs "pgpgout") (lines content.toList) pagesOut) ∧
    (∀ error, PagingCounters.parse content = .error error ↔ error = .noPagingCounters ∧
      (NoNumber (Pairs "pgpgin") (lines content.toList) ∨
        NoNumber (Pairs "pgpgout") (lines content.toList))) ∧
    (∀ n, (Io.parse content).readCalls = n ↔
      LastNumber (Assigns "syscr") (lines content.toList) n ∨
        NoNumber (Assigns "syscr") (lines content.toList) ∧ n = 0) ∧
    (∀ n, (Io.parse content).writeCalls = n ↔
      LastNumber (Assigns "syscw") (lines content.toList) n ∨
        NoNumber (Assigns "syscw") (lines content.toList) ∧ n = 0) ∧
    (∀ content', (lines content.toList).Perm (lines content'.toList) →
      (((lines content.toList).filterMap pairedKey?).Nodup →
        Meminfo.parse content = Meminfo.parse content' ∧
          PagingCounters.parse content = PagingCounters.parse content') ∧
      (((lines content.toList).filterMap assignedKey?).Nodup →
        Io.parse content = Io.parse content')) ∧
    ∀ readCalls writeCalls : UInt64,
      Io.parse (Fixtures.ioContent readCalls.toNat writeCalls.toNat) =
        ⟨readCalls.toNat, writeCalls.toNat⟩ := by
  refine ⟨fun k n => Meminfo.get_parse_eq_some_iff,
    fun pagesIn pagesOut => PagingCounters.parse_eq_ok_iff,
    fun error => PagingCounters.parse_eq_error_iff, ?_, ?_, ?_, Io.parse_ioContent⟩
  · intro n
    rw [Io.parse_eq]
    exact Io.counter_eq_iff
  · intro n
    rw [Io.parse_eq]
    exact Io.counter_eq_iff
  · intro content' hperm
    constructor
    · intro hnodup
      exact ⟨Meminfo.parse_eq_of_perm hperm hnodup, PagingCounters.parse_eq_of_perm hperm hnodup⟩
    · exact Io.parse_eq_of_perm hperm

/-- For each key a later line disagrees with the first one, with or without a number. -/
def disputed : String :=
  "MemFree: 4 kB\nMemFree: x kB\npgpgin 5\npgpgin 7 pages\npgpgout 6\npgpgout\n" ++
    "syscr: 1\n syscr\t: 8\r\nMemFree:4\n"

theorem last_lines_decide_disputed :
    LastGives (PairsNumber "MemFree:") (lines disputed.toList) 4 ∧
    LastNumber (Pairs "pgpgin") (lines disputed.toList) 7 ∧
    LastNumber (Pairs "pgpgout") (lines disputed.toList) 6 ∧
    LastNumber (Assigns "syscr") (lines disputed.toList) 8 ∧
    (NoNumber (Pairs "pgpgin") (lines "pgpgin 2\npgpgout x\r\n\nsyscr:3".toList) ∨
      NoNumber (Pairs "pgpgout") (lines "pgpgin 2\npgpgout x\r\n\nsyscr:3".toList)) ∧
    Io.parse "pgpgin 2\npgpgout x\r\n\nsyscr:3" = Io.parse "\nsyscr:3\npgpgout x\npgpgin 2\n" ∧
    Io.parse (Fixtures.ioContent 12 18446744073709551615) = ⟨12, 18446744073709551615⟩ := by
  obtain ⟨hmeminfo, hpaging, -, hreads, -⟩ := last_lines_decide disputed
  have hfree := (hmeminfo .memFree 4).mp (by decide +kernel)
  obtain ⟨hpagesIn, hpagesOut⟩ := (hpaging 7 6).mp (by decide +kernel)
  have hread := (hreads 8).mp (by decide +kernel)
  obtain ⟨-, -, hfails, -, -, hperm, hround⟩ :=
    last_lines_decide "pgpgin 2\npgpgout x\r\n\nsyscr:3"
  obtain ⟨-, hnone⟩ := (hfails .noPagingCounters).mp (by decide +kernel)
  obtain ⟨-, hio⟩ := hperm "\nsyscr:3\npgpgout x\npgpgin 2\n" (by decide +kernel)
  refine ⟨hfree.resolve_right ?_, hpagesIn, hpagesOut, hread.resolve_right ?_, hnone,
    hio (by decide +kernel), hround 12 18446744073709551615⟩
  · rintro ⟨-, hnotMandatory, -⟩
    exact hnotMandatory (by decide)
  · rintro ⟨-, hzero⟩
    exact absurd hzero (by decide)

end SystemMetrics.Proc
