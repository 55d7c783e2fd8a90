/-!
# Lines

A line ends at a line feed; one carriage return right before the line feed belongs to the line end.
The text after the last line feed is a line too, unless it is empty, and keeps its carriage return.
`cut` and `cutLast` split a text at the first or last occurrence of a character.
-/

namespace SystemMetrics.Text

/-- A finished line without the carriage return that its end may begin with. -/
def dropReturn (line : List Char) : List Char :=
  if line.getLast? = some '\r' then line.dropLast else line

/-- Turns the pieces between line feeds into lines. -/
def linesOfPieces : List (List Char) → List (List Char)
  | [] => []
  | [last] => if last.isEmpty then [] else [last]
  | piece :: rest => dropReturn piece :: linesOfPieces rest

def lines (cs : List Char) : List (List Char) := linesOfPieces (cs.splitOn '\n')

/-- The text before and the text after the first occurrence of `sep`. -/
def cut (sep : Char) (cs : List Char) : Option (List Char × List Char) :=
  match cs.dropWhile (· != sep) with
  | [] => none
  | _ :: rest => some (cs.takeWhile (· != sep), rest)

/-- The text before and the text after the last occurrence of `sep`. -/
def cutLast (sep : Char) (cs : List Char) : Option (List Char × List Char) :=
  (cut sep cs.reverse).map fun (after, before) => (before.reverse, after.reverse)

theorem cut_cons (sep c : Char) (cs : List Char) :
    cut sep (c :: cs) = if c = sep then some ([], cs)
      else (cut sep cs).map fun (before, after) => (c :: before, after) := by
  by_cases h : c = sep
  · simp [cut, h]
  · simp only [cut, bne_iff_ne, ne_eq, h, not_false_eq_true, List.dropWhile_cons_of_pos,
      List.takeWhile_cons_of_pos, if_false]
    split <;> rfl

theorem cut_append {sep : Char} {before : List Char} (h : sep ∉ before) (after : List Char) :
    cut sep (before ++ sep :: after) = some (before, after) := by
  induction before with
  | nil => simp [cut_cons]
  | cons c before ih =>
    rw [List.mem_cons, not_or] at h
    rw [List.cons_append, cut_cons, if_neg (Ne.symm h.1), ih h.2]
    rfl

theorem cut_eq_none {sep : Char} {cs : List Char} (h : sep ∉ cs) : cut sep cs = none := by
  induction cs with
  | nil => rfl
  | cons c cs ih =>
    rw [List.mem_cons, not_or] at h
    rw [cut_cons, if_neg (Ne.symm h.1), ih h.2]
    rfl

end SystemMetrics.Text
