import SystemMetrics.Text.Numeral

/-!
# Timestamps

A timestamp counts milliseconds from the start of 1970 in UTC. Its text is a calendar date and a
time of day in the form of RFC 3339.
-/

namespace SystemMetrics

structure Timestamp where
  milliseconds : Int
  deriving DecidableEq, Repr, Inhabited

namespace Timestamp

/-- Milliseconds since 1970, zero for earlier times, of which the low 64 bits are kept. -/
def sinceEpoch (t : Timestamp) : Nat := t.milliseconds.toNat % Text.word64

theorem sinceEpoch_le {t u : Timestamp} (h : t.milliseconds ≤ u.milliseconds)
    (hu : u.milliseconds < Text.word64) : t.sinceEpoch ≤ u.sinceEpoch := by
  unfold sinceEpoch Text.word64 at *
  omega

/-- A day of the proleptic Gregorian calendar. -/
structure CalendarDate where
  year : Int
  month : Nat
  day : Nat
  deriving DecidableEq, Repr

/-- The calendar day that lies `days` days after the first of January 1970. Counting starts at the
first of March of a year divisible by 400, so that the leap day is the last day of its year. -/
def CalendarDate.ofDays (days : Int) : CalendarDate :=
  let shifted := days + 719468
  let era := shifted.fdiv 146097
  let dayOfEra := (shifted.fmod 146097).toNat
  let yearOfEra := (dayOfEra - dayOfEra / 1460 + dayOfEra / 36524 - dayOfEra / 146096) / 365
  let dayOfYear := dayOfEra - (365 * yearOfEra + yearOfEra / 4 - yearOfEra / 100)
  let shiftedMonth := (5 * dayOfYear + 2) / 153
  let month := if shiftedMonth < 10 then shiftedMonth + 3 else shiftedMonth - 9
  { year := era * 400 + yearOfEra + (if month ≤ 2 then 1 else 0)
    month := month
    day := dayOfYear - (153 * shiftedMonth + 2) / 5 + 1 }

/-- A number with at least `width` digits. -/
def padded (width n : Nat) : String :=
  let digits := Nat.toDigits 10 n
  String.ofList (List.replicate (width - digits.length) '0' ++ digits)

/-- A year has four digits; outside 0 to 9999 it has a sign too. -/
def yearText (year : Int) : String :=
  if 0 ≤ year ∧ year ≤ 9999 then padded 4 year.toNat
  else if year < 0 then "-" ++ padded 4 year.natAbs
  else "+" ++ padded 4 year.toNat

/-- Date and time with `Z`; the milliseconds are written only if there are any. -/
def text (t : Timestamp) : String :=
  let date := CalendarDate.ofDays (t.milliseconds.fdiv 86400000)
  let inDay := (t.milliseconds.fmod 86400000).toNat
  let seconds := inDay / 1000
  let fraction := if inDay % 1000 = 0 then "" else "." ++ padded 3 (inDay % 1000)
  yearText date.year ++ "-" ++ padded 2 date.month ++ "-" ++ padded 2 date.day ++ "T"
    ++ padded 2 (seconds / 3600) ++ ":" ++ padded 2 (seconds / 60 % 60) ++ ":"
    ++ padded 2 (seconds % 60) ++ fraction ++ "Z"

end Timestamp

end SystemMetrics
