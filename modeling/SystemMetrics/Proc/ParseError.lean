/-!
# Malformed proc files

What makes the content of a proc file unreadable, and the text that says so.
-/

namespace SystemMetrics.Proc

inductive ParseError where
  | noOpeningParenthesis
  | noClosingParenthesis
  /-- The last closing parenthesis stands before the first opening one. -/
  | crossedParentheses
  /-- A column of a process's `stat` is not a number of its range. -/
  | badColumn (name : String)
  | fewStatColumns (found : Nat)
  | badPageCount
  | fewPageCounts (found : Nat)
  | noPagingCounters
  /-- The first word of a row starts with `cpu` but names no processor. -/
  | badRowName (name : String)
  | fewTickColumns (row : String) (found : Nat)
  | badTicks (value row : String)
  deriving DecidableEq, Repr

namespace ParseError

/-- What is wrong, without the words that introduce an error. -/
def detail : ParseError → String
  | .noOpeningParenthesis => "missing '(' in stat"
  | .noClosingParenthesis => "missing ')' in stat"
  | .crossedParentheses => "invalid parentheses in stat"
  | .badColumn name => "invalid " ++ name
  | .fewStatColumns found => "not enough fields in stat: expected 22+, got " ++ toString found
  | .badPageCount => "invalid number in statm"
  | .fewPageCounts found => "not enough fields in statm: expected 6+, got " ++ toString found
  | .noPagingCounters => "pgpgin/pgpgout missing in vmstat"
  | .badRowName name => "invalid cpu row '" ++ name ++ "'"
  | .fewTickColumns row found =>
    "cpu row '" ++ row ++ "' has " ++ toString found ++ " columns, expected 5+"
  | .badTicks value row => "invalid tick value '" ++ value ++ "' in '" ++ row ++ "'"

def message (e : ParseError) : String := "Parse error: " ++ e.detail

end ParseError

end SystemMetrics.Proc
