import SystemMetrics.Proc.Stat
import SystemMetrics.Proofs.Text.Numerals
import SystemMetrics.Proofs.Text.Words

/-!
# The columns of `stat`

Every number of `stat` is read with 64 bits, and the first column that is no number of that range
makes the text unreadable. Seven columns are then kept in 32 bits only.
-/

namespace SystemMetrics.Proc.Stat

open Text

/-- The columns of numbers that are used, in the order in which they are read. -/
inductive Column where
  | ppid
  | pgrp
  | session
  | ttyNr
  | majorFaults
  | userTicks
  | systemTicks
  | childUserTicks
  | childSystemTicks
  | priority
  | nice
  | threads
  | startTicks
  | virtualSize
  | residentPages
  deriving DecidableEq, Repr

namespace Column

def all : List Column :=
  [.ppid, .pgrp, .session, .ttyNr, .majorFaults, .userTicks, .systemTicks, .childUserTicks,
   .childSystemTicks, .priority, .nice, .threads, .startTicks, .virtualSize, .residentPages]

theorem mem_all (c : Column) : c ∈ all := by cases c <;> decide

/-- The place after the command name. -/
def index : Column → Nat
  | .ppid => 1
  | .pgrp => 2
  | .session => 3
  | .ttyNr => 4
  | .majorFaults => 9
  | .userTicks => 11
  | .systemTicks => 12
  | .childUserTicks => 13
  | .childSystemTicks => 14
  | .priority => 15
  | .nice => 16
  | .threads => 17
  | .startTicks => 19
  | .virtualSize => 20
  | .residentPages => 21

def name : Column → String
  | .ppid => "ppid"
  | .pgrp => "pgrp"
  | .session => "session"
  | .ttyNr => "tty_nr"
  | .majorFaults => "majflt"
  | .userTicks => "utime"
  | .systemTicks => "stime"
  | .childUserTicks => "cutime"
  | .childSystemTicks => "cstime"
  | .priority => "priority"
  | .nice => "nice"
  | .threads => "num_threads"
  | .startTicks => "starttime"
  | .virtualSize => "vsize"
  | .residentPages => "rss"

/-- The type in which the number is kept. -/
def type : Column → IntType
  | .ppid => .nat32
  | .pgrp | .session | .ttyNr | .priority | .nice | .threads => .int32
  | .majorFaults | .userTicks | .systemTicks | .startTicks | .virtualSize => .nat64
  | .childUserTicks | .childSystemTicks | .residentPages => .int64

/-- The type in which the number is read. -/
def readType (c : Column) : IntType := if c.type = .nat64 then .nat64 else .int64

def value (stat : Stat) : Column → Int
  | .ppid => stat.ppid
  | .pgrp => stat.pgrp
  | .session => stat.session
  | .ttyNr => stat.ttyNr
  | .majorFaults => stat.majorFaults
  | .userTicks => stat.userTicks
  | .systemTicks => stat.systemTicks
  | .childUserTicks => stat.childUserTicks
  | .childSystemTicks => stat.childSystemTicks
  | .priority => stat.priority
  | .nice => stat.nice
  | .threads => stat.threads
  | .startTicks => stat.startTicks
  | .virtualSize => stat.virtualSize
  | .residentPages => stat.residentPages

def text (c : Column) (columns : List (List Char)) : List Char := columns[c.index]?.getD []

def read? (c : Column) (columns : List (List Char)) : Option Int :=
  c.readType.read? (c.text columns)

end Column

variable {pid : Nat} {comm : String} {columns : List (List Char)} {stat : Stat}

/-- The first character of the first column. -/
def stateOf (columns : List (List Char)) : Char := ((columns[0]?.getD []).head?).getD '?'

/-- Keeps each number in the type of its column. -/
def ofNumbers (pid : Nat) (comm : String) (state : Char) (number : Column → Int) : Stat :=
  let kept (c : Column) : Int := c.type.wrap (number c)
  { pid, comm, state
    ppid := (kept .ppid).toNat
    pgrp := kept .pgrp
    session := kept .session
    ttyNr := kept .ttyNr
    majorFaults := (kept .majorFaults).toNat
    userTicks := (kept .userTicks).toNat
    systemTicks := (kept .systemTicks).toNat
    childUserTicks := kept .childUserTicks
    childSystemTicks := kept .childSystemTicks
    priority := kept .priority
    nice := kept .nice
    threads := kept .threads
    startTicks := (kept .startTicks).toNat
    virtualSize := (kept .virtualSize).toNat
    residentPages := kept .residentPages }

theorem value_ofNumbers (pid : Nat) (comm : String) (state : Char) (number : Column → Int)
    (c : Column) : c.value (ofNumbers pid comm state number) = c.type.wrap (number c) := by
  cases c
  case ppid | majorFaults | userTicks | systemTicks | startTicks | virtualSize =>
    exact Int.toNat_of_nonneg (IntType.holds_wrap _ _).1
  all_goals rfl

theorem ext_values {stat stat' : Stat} (hpid : stat.pid = stat'.pid)
    (hcomm : stat.comm = stat'.comm) (hstate : stat.state = stat'.state)
    (h : ∀ c : Column, c.value stat = c.value stat') : stat = stat' := by
  obtain ⟨⟩ := stat
  obtain ⟨⟩ := stat'
  rw [Stat.mk.injEq]
  exact ⟨hpid, hcomm, hstate, Int.ofNat_inj.mp (h .ppid), h .pgrp, h .session, h .ttyNr,
    Int.ofNat_inj.mp (h .majorFaults), Int.ofNat_inj.mp (h .userTicks),
    Int.ofNat_inj.mp (h .systemTicks), h .childUserTicks, h .childSystemTicks, h .priority,
    h .nice, h .threads, Int.ofNat_inj.mp (h .startTicks), Int.ofNat_inj.mp (h .virtualSize),
    h .residentPages⟩

theorem low32_eq (n : Int) : (low32 n : Int) = IntType.nat32.wrap n := by
  rw [low32, Int.toNat_of_nonneg (Int.emod_nonneg n (by decide))]
  simp only [IntType.wrap, IntType.least, IntType.bound, word32]
  omega

theorem signed32_eq (n : Int) : signed32 n = IntType.int32.wrap n := by
  have hsize : IntType.int32.bound - IntType.int32.least = 0x100000000 := rfl
  rw [signed32, Int.bmod_def, IntType.wrap, hsize]
  simp only [IntType.least, word32]
  omega

/-! ## Reading the columns -/

/-- Yields a result unless one of the columns cannot be read; the first such column is blamed. -/
def unlessUnread (columns : List (List Char)) (cs : List Column) (result : Stat) :
    Except ParseError Stat :=
  match cs.find? fun c => (c.read? columns).isNone with
  | some c => .error (.badColumn c.name)
  | none => .ok result

theorem signedColumn_bind (c : Column) {rest : List Column} {f : Int → Except ParseError Stat}
    {result : Stat} (hc : c.readType = .int64)
    (hrest : ∀ n, c.read? columns = some n → f n = unlessUnread columns rest result) :
    (signedColumn columns c.index c.name >>= f) = unlessUnread columns (c :: rest) result := by
  have hread : c.read? columns = integer64? (columns[c.index]?.getD []) := by
    rw [Column.read?, hc]
    rfl
  rw [unlessUnread, List.find?_cons, hread, signedColumn]
  cases h : integer64? (columns[c.index]?.getD []) with
  | none => rfl
  | some n => exact hrest n (hread.trans h)

theorem unsignedColumn_bind (c : Column) {rest : List Column} {f : Nat → Except ParseError Stat}
    {result : Stat} (hc : c.readType = .nat64)
    (hrest : ∀ n : Nat, c.read? columns = some (n : Int) → f n = unlessUnread columns rest result) :
    (unsignedColumn columns c.index c.name >>= f) = unlessUnread columns (c :: rest) result := by
  have hread : c.read? columns =
      (natural64? (columns[c.index]?.getD [])).map fun n : Nat => (n : Int) := by
    rw [Column.read?, hc]
    rfl
  rw [unlessUnread, List.find?_cons, hread, unsignedColumn]
  cases h : natural64? (columns[c.index]?.getD []) with
  | none => rfl
  | some n => exact hrest n (by rw [hread, h]; rfl)

section Kept

variable {c : Column} {n : Int}

theorem low32_read (hc : c.type = .nat32) (h : c.read? columns = some n) :
    (low32 n : Int) = c.type.wrap ((c.read? columns).getD 0) := by
  rw [low32_eq, hc, h, Option.getD_some]

theorem signed32_read (hc : c.type = .int32) (h : c.read? columns = some n) :
    signed32 n = c.type.wrap ((c.read? columns).getD 0) := by
  rw [signed32_eq, hc, h, Option.getD_some]

theorem kept_read (hc : c.type = c.readType) (h : c.read? columns = some n) :
    n = c.type.wrap ((c.read? columns).getD 0) := by
  rw [h, Option.getD_some]
  exact (IntType.wrap_eq_iff.mpr (hc ▸ (IntType.read?_eq_some_iff.mp h).2)).symm

end Kept

theorem ofColumns_eq (pid : Nat) (comm : String) (h : 22 ≤ columns.length) :
    ofColumns pid comm columns = unlessUnread columns Column.all
      (ofNumbers pid comm (stateOf columns) fun c => (c.read? columns).getD 0) := by
  rw [ofColumns, if_neg (Nat.not_lt.mpr h)]
  -- The reads in their order; each leaves its number for the record at the end.
  refine signedColumn_bind .ppid rfl fun ppid hppid => ?_
  refine signedColumn_bind .pgrp rfl fun pgrp hpgrp => ?_
  refine signedColumn_bind .session rfl fun session hsession => ?_
  refine signedColumn_bind .ttyNr rfl fun ttyNr httyNr => ?_
  refine unsignedColumn_bind .majorFaults rfl fun majorFaults hmajorFaults => ?_
  refine unsignedColumn_bind .userTicks rfl fun userTicks huserTicks => ?_
  refine unsignedColumn_bind .systemTicks rfl fun systemTicks hsystemTicks => ?_
  refine signedColumn_bind .childUserTicks rfl fun childUserTicks hchildUserTicks => ?_
  refine signedColumn_bind .childSystemTicks rfl fun childSystemTicks hchildSystemTicks => ?_
  refine signedColumn_bind .priority rfl fun priority hpriority => ?_
  refine signedColumn_bind .nice rfl fun nice hnice => ?_
  refine signedColumn_bind .threads rfl fun threads hthreads => ?_
  refine unsignedColumn_bind .startTicks rfl fun startTicks hstartTicks => ?_
  refine unsignedColumn_bind .virtualSize rfl fun virtualSize hvirtualSize => ?_
  refine signedColumn_bind .residentPages rfl fun residentPages hresidentPages => ?_
  refine congrArg Except.ok (ext_values rfl rfl rfl fun c => ?_)
  rw [value_ofNumbers]
  cases c
  case ppid => exact low32_read rfl hppid
  case pgrp | session | ttyNr | priority | nice | threads => exact signed32_read rfl ‹_›
  all_goals exact kept_read rfl ‹_›

theorem unlessUnread_eq_ok_iff {cs : List Column} {result : Stat} :
    unlessUnread columns cs result = .ok stat ↔
      (∀ c ∈ cs, ∃ n, c.read? columns = some n) ∧ stat = result := by
  rw [unlessUnread]
  cases h : cs.find? fun c => (c.read? columns).isNone with
  | some c =>
    have hnone : c.read? columns = none := by simpa using List.find?_some h
    refine ⟨nofun, fun hok => ?_⟩
    obtain ⟨n, hn⟩ := hok.1 c (List.mem_of_find?_eq_some h)
    rw [hnone] at hn
    cases hn
  | none =>
    have hread (c : Column) (hc : c ∈ cs) : ∃ n, c.read? columns = some n := by
      refine Option.ne_none_iff_exists'.mp fun hnone => ?_
      exact List.find?_eq_none.mp h c hc (Option.isNone_iff_eq_none.mpr hnone)
    rw [and_iff_right hread, Except.ok.injEq, eq_comm]

theorem ofColumns_eq_ok_iff : ofColumns pid comm columns = .ok stat ↔
    22 ≤ columns.length ∧ stat.pid = pid ∧ stat.comm = comm ∧ stat.state = stateOf columns ∧
      ∀ c : Column, ∃ n, c.read? columns = some n ∧ c.value stat = c.type.wrap n := by
  by_cases hlength : 22 ≤ columns.length
  · rw [ofColumns_eq pid comm hlength, unlessUnread_eq_ok_iff, and_iff_right hlength]
    constructor
    · rintro ⟨hread, rfl⟩
      refine ⟨rfl, rfl, rfl, fun c => ?_⟩
      obtain ⟨n, hn⟩ := hread c c.mem_all
      exact ⟨n, hn, by rw [value_ofNumbers, hn, Option.getD_some]⟩
    · rintro ⟨hpid, hcomm, hstate, hvalues⟩
      refine ⟨fun c _ => (hvalues c).imp fun _ => And.left,
        ext_values hpid hcomm hstate fun c => ?_⟩
      obtain ⟨n, hn, hvalue⟩ := hvalues c
      rw [value_ofNumbers, hn, Option.getD_some, hvalue]
  · rw [ofColumns, if_pos (Nat.not_le.mp hlength)]
    exact ⟨nofun, fun h => absurd h.1 hlength⟩

/-! ## The frame of the columns -/

/-- A text, its part before the first opening parenthesis, the command name, and its part after the
last closing parenthesis. -/
structure Framed (text before comm after : List Char) : Prop where
  text_eq : text = before ++ '(' :: (comm ++ ')' :: after)
  noOpening : '(' ∉ before
  noClosing : ')' ∉ after

variable {text before comm after : List Char}

def ofFrame (before comm after : List Char) : Except ParseError Stat :=
  match natural? word32 (trim before) with
  | none => .error (.badColumn "pid")
  | some pid => ofColumns pid (String.ofList comm) (words after)

theorem Framed.trim_eq (h : Framed text before comm after) :
    trim text = trimStart before ++ '(' :: (comm ++ ')' :: trimEnd after) := by
  have happend (after : List Char) : trimStart before ++ '(' :: (comm ++ ')' :: after) =
      (trimStart before ++ '(' :: comm) ++ ')' :: after := by
    rw [List.append_assoc, List.cons_append]
  rw [trim, h.text_eq, trimStart_append_cons (by decide), happend, happend,
    trimEnd_append_cons (by decide)]

theorem parseChars_framed (h : Framed text before comm after) :
    parseChars text = ofFrame before comm after := by
  -- Trimming reaches neither parenthesis, so the cuts find the frame of the whole text.
  have hcut : cut '(' (trim text) = some (trimStart before, comm ++ ')' :: trimEnd after) :=
    cut_eq_some_iff.mpr ⟨h.trim_eq, mt mem_of_mem_trimStart h.noOpening⟩
  have hcutLast : cutLast ')' (comm ++ ')' :: trimEnd after) = some (comm, trimEnd after) :=
    cutLast_eq_some_iff.mpr ⟨rfl, mt mem_of_mem_trimEnd h.noClosing⟩
  have hclosing : (trim text).contains ')' = true := by
    rw [h.trim_eq]
    simp
  simp only [parseChars, hcut, hcutLast, hclosing, Bool.not_true, Bool.false_eq_true, if_false,
    trim_trimStart, words_trimEnd]
  rfl

theorem exists_framed (h : parseChars text = .ok stat) :
    ∃ before comm after, Framed text before comm after := by
  obtain ⟨leading, trailing, hleading, htrailing, htext⟩ := exists_trim text
  simp only [parseChars] at h
  cases hcut : cut '(' (trim text) with
  | none => rw [hcut] at h; cases h
  | some parts =>
    obtain ⟨before, tail⟩ := parts
    obtain ⟨htrim, hbefore⟩ := cut_eq_some_iff.mp hcut
    rw [hcut] at h
    dsimp only at h
    split at h
    · cases h
    cases hcutLast : cutLast ')' tail with
    | none => rw [hcutLast] at h; cases h
    | some parts =>
      obtain ⟨comm, after⟩ := parts
      obtain ⟨rfl, hafter⟩ := cutLast_eq_some_iff.mp hcutLast
      refine ⟨leading ++ before, comm, after ++ trailing, ?_, ?_, ?_⟩
      · rw [htext, htrim]
        simp only [List.append_assoc, List.cons_append]
      · exact List.not_mem_append (hleading.notMem (by decide)) hbefore
      · exact List.not_mem_append hafter (htrailing.notMem (by decide))

theorem ofFrame_eq_ok_iff : ofFrame before comm after = .ok stat ↔
    natural? word32 (trim before) = some stat.pid ∧
      ofColumns stat.pid (String.ofList comm) (words after) = .ok stat := by
  rw [ofFrame]
  cases h : natural? word32 (trim before) with
  | none => exact ⟨nofun, fun hok => nomatch hok.1⟩
  | some pid =>
    constructor
    · intro hok
      obtain rfl : stat.pid = pid := (ofColumns_eq_ok_iff.mp hok).2.1
      exact ⟨rfl, hok⟩
    · rintro ⟨hpid, hok⟩
      cases hpid
      exact hok

/-! ## Numbers that fit and numbers that do not -/

theorem badPid_of_not_holds {n : Int} (hn : Numeral true (trim before) n)
    (hfits : ¬ IntType.nat32.Holds n) :
    ofFrame before comm after = .error (.badColumn "pid") := by
  rw [ofFrame]
  cases h : natural? word32 (trim before) with
  | none => rfl
  | some pid =>
    obtain ⟨hpid, hlt⟩ := (natural?_eq_some_iff (by decide)).mp h
    have hread : IntType.nat32.read? (trim before) = some (pid : Int) := by
      rw [IntType.read?, h]
      rfl
    exact absurd (hn.unique hpid ▸ (IntType.read?_eq_some_iff.mp hread).2) hfits

theorem exists_error_of_not_holds {c : Column} {n : Int}
    (hn : Numeral true (c.text (words after)) n) (hfits : ¬ c.readType.Holds n) :
    ∃ e, ofFrame before comm after = .error e := by
  cases h : ofFrame before comm after with
  | error e => exact ⟨e, rfl⟩
  | ok stat =>
    obtain ⟨-, -, -, -, hvalues⟩ := ofColumns_eq_ok_iff.mp (ofFrame_eq_ok_iff.mp h).2
    obtain ⟨m, hread, -⟩ := hvalues c
    obtain ⟨hm, hholds⟩ := IntType.read?_eq_some_iff.mp hread
    exact absurd (hn.unique hm ▸ hholds) hfits

/-- A text of `stat` that is read has a frame, and every number is the integer that is written in
its column, wrapped into the type in which it is kept. So it is that integer exactly if the type can
hold it. An integer that even the type in which it is read cannot hold makes the text unreadable. -/
theorem parse_alters_iff (text : String) :
    (∀ stat, parse text = .ok stat →
      ∃ before comm after, Framed text.toList before comm after) ∧
    ∀ before comm after, Framed text.toList before comm after →
      (∀ stat, parse text = .ok stat →
        Numeral false (trim before) stat.pid ∧ IntType.nat32.Holds stat.pid ∧
        ∀ c : Column, ∃ n, Numeral c.readType.signed (c.text (words after)) n ∧
          c.readType.Holds n ∧ c.value stat = c.type.wrap n ∧
          (c.value stat = n ↔ c.type.Holds n)) ∧
      (∀ n, Numeral true (trim before) n → ¬ IntType.nat32.Holds n →
        parse text = .error (.badColumn "pid")) ∧
      ∀ (c : Column) (n), Numeral true (c.text (words after)) n → ¬ c.readType.Holds n →
        ∃ e, parse text = .error e := by
  refine ⟨fun stat => exists_framed, fun before comm after hframed => ?_⟩
  rw [parse, parseChars_framed hframed]
  refine ⟨fun stat hok => ?_, fun n => badPid_of_not_holds, fun c n => exists_error_of_not_holds⟩
  obtain ⟨hpid, hcolumns⟩ := ofFrame_eq_ok_iff.mp hok
  obtain ⟨hnumeral, hlt⟩ := (natural?_eq_some_iff (by decide)).mp hpid
  obtain ⟨-, -, -, -, hvalues⟩ := ofColumns_eq_ok_iff.mp hcolumns
  refine ⟨hnumeral, IntType.holds_nat32 hlt, fun c => ?_⟩
  obtain ⟨n, hread, hvalue⟩ := hvalues c
  obtain ⟨hn, hholds⟩ := IntType.read?_eq_some_iff.mp hread
  exact ⟨n, hn, hholds, hvalue, by rw [hvalue, IntType.wrap_eq_iff]⟩

def shellText (pid ppid pgrp : String) : String :=
  pid ++ " (sh) S " ++ ppid ++ " " ++ pgrp ++ " 7 0 -1 0 0 0 0 0 5 5 0 0 20 0 1 0 100 0 0"

def shellColumns (ppid pgrp : String) : List Char :=
  (" S " ++ ppid ++ " " ++ pgrp ++ " 7 0 -1 0 0 0 0 0 5 5 0 0 20 0 1 0 100 0 0").toList

/-- A process group of more than 32 bits is read as another group, where a process number or a
parent that is out of range is refused. -/
theorem parse_alters_group :
    (∃ stat, parse (shellText "7" "1" "4294967303") = .ok stat ∧
      Numeral true (Column.pgrp.text (words (shellColumns "1" "4294967303"))) 4294967303 ∧
      stat.pgrp = 7 ∧ stat.pgrp ≠ 4294967303) ∧
    parse (shellText "4294967296" "1" "7") = .error (.badColumn "pid") ∧
    ∃ e, parse (shellText "7" "9223372036854775808" "7") = .error e := by
  have hwritten {cs : List Char} (n : Int) (h : cs = (toString n).toList) : Numeral true cs n :=
    h ▸ numeral_toString n (.inr rfl)
  refine ⟨?_, ?_, ?_⟩
  · have hframed : Framed (shellText "7" "1" "4294967303").toList "7 ".toList "sh".toList
        (shellColumns "1" "4294967303") := ⟨by decide +kernel, by decide, by decide +kernel⟩
    have hok : parse (shellText "7" "1" "4294967303") =
        .ok { pid := 7, comm := "sh", state := 'S', ppid := 1, pgrp := 7, session := 7
              userTicks := 5, systemTicks := 5, priority := 20, threads := 1
              startTicks := 100 } := by
      decide +kernel
    obtain ⟨-, -, hcolumns⟩ := ((parse_alters_iff _).2 _ _ _ hframed).1 _ hok
    obtain ⟨n, hn, -, hvalue, hiff⟩ := hcolumns .pgrp
    have hpgrp : Numeral true (Column.pgrp.text (words (shellColumns "1" "4294967303")))
        4294967303 := hwritten 4294967303 (by decide +kernel)
    obtain rfl := hn.unique hpgrp
    exact ⟨_, hok, hpgrp, hvalue, mt hiff.mp (by decide)⟩
  · have hframed : Framed (shellText "4294967296" "1" "7").toList "4294967296 ".toList "sh".toList
        (shellColumns "1" "7") := ⟨by decide +kernel, by decide +kernel, by decide +kernel⟩
    exact ((parse_alters_iff _).2 _ _ _ hframed).2.1 4294967296
      (hwritten 4294967296 (by decide +kernel)) (by decide)
  · have hframed : Framed (shellText "7" "9223372036854775808" "7").toList "7 ".toList "sh".toList
        (shellColumns "9223372036854775808" "7") :=
      ⟨by decide +kernel, by decide, by decide +kernel⟩
    exact ((parse_alters_iff _).2 _ _ _ hframed).2.2 .ppid 9223372036854775808
      (hwritten 9223372036854775808 (by decide +kernel)) (by decide)

end SystemMetrics.Proc.Stat
