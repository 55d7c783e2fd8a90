import SystemMetrics.Proc.ParseError
import SystemMetrics.Text.Blank
import SystemMetrics.Text.Numeral

/-!
# `/proc/<pid>/statm`

Numbers of pages: size, resident, shared, text, lib, data, dirty.
-/

namespace SystemMetrics.Proc

/-- The page counts of `statm` that are used. -/
structure Statm where
  shared : Nat := 0
  text : Nat := 0
  data : Nat := 0
  deriving DecidableEq, Repr

/-- Every word has to be a number; the third, fourth and sixth are kept. -/
def Statm.parse (content : String) : Except ParseError Statm :=
  match (Text.words content.toList).mapM Text.natural64? with
  | none => .error .badPageCount
  | some (_ :: _ :: shared :: text :: _ :: data :: _) => .ok { shared, text, data }
  | some counts => .error (.fewPageCounts counts.length)

end SystemMetrics.Proc
