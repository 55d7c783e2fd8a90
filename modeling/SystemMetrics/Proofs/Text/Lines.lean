import SystemMetrics.Proofs.Text.Words

/-!
# Lines of a text

Lines that are joined by line feeds are the lines of the text, but for the carriage returns at their
ends and for an empty last one, which is what a final line feed leaves. To a reader that looks at
the words of a line alone they make no difference.
-/

namespace SystemMetrics.Text

variable {sep c : Char} {line : List Char} {ls : List (List Char)} {β : Type}

/-- The text that joins lines by line feeds. A final line feed is an empty last line. -/
def joined (ls : List (List Char)) : String := String.ofList (['\n'].intercalate ls)

theorem toList_joined (ls : List (List Char)) : (joined ls).toList = ['\n'].intercalate ls :=
  String.toList_ofList

theorem lines_joined (hne : ls ≠ []) (h : ∀ l ∈ ls, '\n' ∉ l) :
    lines (joined ls).toList = linesOfPieces ls := by
  rw [lines, toList_joined, List.splitOn_intercalate '\n' h hne]

theorem tail_linesOfPieces (line : List Char) (ls : List (List Char)) :
    (linesOfPieces (line :: ls)).tail = linesOfPieces ls := by
  cases ls with
  | nil => cases line <;> rfl
  | cons next ls => rfl

/-- What follows two lines at the head of a text. -/
theorem drop_lines_joined {first second : List Char} (h : ∀ l ∈ first :: second :: ls, '\n' ∉ l) :
    (lines (joined (first :: second :: ls)).toList).drop 2 = linesOfPieces ls := by
  rw [lines_joined (List.cons_ne_nil _ _) h, ← List.tail_drop, List.drop_one, tail_linesOfPieces,
    tail_linesOfPieces]

/-- A reader of lines to which a carriage return at the end of a line is nothing. -/
theorem filterMap_linesOfPieces {f : List Char → Option β}
    (hreturn : ∀ line, f (dropReturn line) = f line) (hempty : f [] = none)
    (ls : List (List Char)) : (linesOfPieces ls).filterMap f = ls.filterMap f := by
  induction ls with
  | nil => rfl
  | cons line ls ih =>
    cases ls with
    | nil =>
      cases line with
      | nil => simp [linesOfPieces, hempty]
      | cons c line => rfl
    | cons next ls =>
      rw [linesOfPieces, List.filterMap_cons, hreturn, ih, ← List.filterMap_cons]
      exact List.cons_ne_nil _ _

theorem dropReturn_cases (line : List Char) :
    dropReturn line = line ∨ line = dropReturn line ++ ['\r'] := by
  by_cases h : line.getLast? = some '\r'
  · rw [dropReturn, if_pos h]
    exact .inr (List.dropLast_append_getLast? _ h).symm
  · exact .inl (if_neg h)

/-- A character after a text only matters to what is after the cut. -/
theorem cut_append_singleton (hc : c ≠ sep) (cs : List Char) :
    cut sep (cs ++ [c]) = (cut sep cs).map fun (before, after) => (before, after ++ [c]) := by
  induction cs with
  | nil => simp [hc, cut]
  | cons d cs ih =>
    rw [List.cons_append, cut_cons, cut_cons, ih]
    by_cases hd : d = sep
    · simp [hd]
    · simp [hd, Option.map_map, Function.comp_def]

end SystemMetrics.Text
