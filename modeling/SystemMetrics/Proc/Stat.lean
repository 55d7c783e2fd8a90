import SystemMetrics.Proc.ParseError
import SystemMetrics.Text.Line
import SystemMetrics.Text.Numeral
import SystemMetrics.Text.Blank

/-!
# `/proc/<pid>/stat`

One line: the process number, the command name in parentheses, and columns separated by blanks. The
command name may contain blanks and parentheses, so it reaches from the first opening to the last
closing parenthesis of the text.
-/

namespace SystemMetrics.Proc

/-- The columns of `stat` that are used. -/
structure Stat where
  pid : Nat
  comm : String := ""
  /-- The letter of the execution state. -/
  state : Char := '\x00'
  ppid : Nat := 0
  pgrp : Int := 0
  session : Int := 0
  ttyNr : Int := 0
  majorFaults : Nat := 0
  userTicks : Nat := 0
  systemTicks : Nat := 0
  childUserTicks : Int := 0
  childSystemTicks : Int := 0
  priority : Int := 0
  nice : Int := 0
  threads : Int := 0
  startTicks : Nat := 0
  virtualSize : Nat := 0
  residentPages : Int := 0
  deriving DecidableEq, Repr

namespace Stat

open Text

/-- The column `index` after the command name as a signed 64-bit number. -/
def signedColumn (columns : List (List Char)) (index : Nat) (name : String) :
    Except ParseError Int :=
  match integer64? (columns[index]?.getD []) with
  | some n => .ok n
  | none => .error (.badColumn name)

/-- The column `index` after the command name as an unsigned 64-bit number. -/
def unsignedColumn (columns : List (List Char)) (index : Nat) (name : String) :
    Except ParseError Nat :=
  match natural64? (columns[index]?.getD []) with
  | some n => .ok n
  | none => .error (.badColumn name)

/-- Keeps the low 32 bits, read without sign. -/
def low32 (n : Int) : Nat := (n % word32).toNat

/-- Keeps the low 32 bits, read in two's complement. -/
def signed32 (n : Int) : Int := n.bmod word32

/-- Reads the columns after the command name; they are checked in the order in which they stand. -/
def ofColumns (pid : Nat) (comm : String) (columns : List (List Char)) :
    Except ParseError Stat := do
  if columns.length < 22 then throw (.fewStatColumns columns.length)
  let ppid ← signedColumn columns 1 "ppid"
  let pgrp ← signedColumn columns 2 "pgrp"
  let session ← signedColumn columns 3 "session"
  let ttyNr ← signedColumn columns 4 "tty_nr"
  let majorFaults ← unsignedColumn columns 9 "majflt"
  let userTicks ← unsignedColumn columns 11 "utime"
  let systemTicks ← unsignedColumn columns 12 "stime"
  let childUserTicks ← signedColumn columns 13 "cutime"
  let childSystemTicks ← signedColumn columns 14 "cstime"
  let priority ← signedColumn columns 15 "priority"
  let nice ← signedColumn columns 16 "nice"
  let threads ← signedColumn columns 17 "num_threads"
  let startTicks ← unsignedColumn columns 19 "starttime"
  let virtualSize ← unsignedColumn columns 20 "vsize"
  let residentPages ← signedColumn columns 21 "rss"
  return {
    pid, comm
    state := ((columns[0]?.getD []).head?).getD '?'
    ppid := low32 ppid
    pgrp := signed32 pgrp
    session := signed32 session
    ttyNr := signed32 ttyNr
    majorFaults, userTicks, systemTicks, childUserTicks, childSystemTicks
    priority := signed32 priority
    nice := signed32 nice
    threads := signed32 threads
    startTicks, virtualSize, residentPages }

def parseChars (content : List Char) : Except ParseError Stat :=
  let content := trim content
  match cut '(' content with
  | none => .error .noOpeningParenthesis
  | some (before, after) =>
    if !content.contains ')' then .error .noClosingParenthesis
    else match cutLast ')' after with
      | none => .error .crossedParentheses
      | some (comm, rest) =>
        match natural? word32 (trim before) with
        | none => .error (.badColumn "pid")
        | some pid => ofColumns pid (String.ofList comm) (words rest)

def parse (content : String) : Except ParseError Stat := parseChars content.toList

end Stat

end SystemMetrics.Proc
