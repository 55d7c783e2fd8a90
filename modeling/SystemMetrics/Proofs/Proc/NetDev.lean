import Mathlib.Data.List.Forall2
import SystemMetrics.Proc.NetDev
import SystemMetrics.Proofs.Text.Lines

/-!
# Tables of interfaces are read back

After two lines of headings each line of `net/dev` shows an interface or nothing. What it shows is
said by its text: the name up to the first colon and seven of the columns after it, whatever blanks
surround them. A table is read as the interfaces that its lines show, in their order.
-/

namespace SystemMetrics.Proc.NetDev

open Text

variable {line before rest : List Char} {columns : List (List Char)} {d : NetDev}

/-! ## What a line shows -/

/-- The columns hold the counters of an interface. Columns are counted from zero. -/
structure Counts (columns : List (List Char)) (d : NetDev) : Prop where
  enough : 14 ≤ columns.length
  bytesReceived : NumberAt columns 0 d.bytesReceived
  packetsReceived : NumberAt columns 1 d.packetsReceived
  errorsReceiving : NumberAt columns 2 d.errorsReceiving
  bytesSent : NumberAt columns 8 d.bytesSent
  packetsSent : NumberAt columns 9 d.packetsSent
  errorsSending : NumberAt columns 10 d.errorsSending
  collisions : NumberAt columns 13 d.collisions

/-- A line that shows no interface: it has no colon, or fewer than 14 columns after the first. -/
inductive Skipped : List Char → Prop
  | noColon {line : List Char} (h : ':' ∉ line) : Skipped line
  | fewColumns {before rest : List Char} {columns : List (List Char)} (hcolon : ':' ∉ before)
      (hspells : Spells rest columns) (h : columns.length < 14) : Skipped (before ++ ':' :: rest)

/-- What a line of the table shows, if anything. The first counter may touch the colon, and the name
is any text without colons and blanks. -/
inductive Shows : List Char → Option NetDev → Prop
  | interface {leading rest : List Char} {columns : List (List Char)} {d : NetDev}
      (hleading : Blanks leading) (hcolon : ':' ∉ d.interface.toList)
      (hblank : ∀ c ∈ d.interface.toList, isBlank c = false) (hspells : Spells rest columns)
      (hcounts : Counts columns d) : Shows (leading ++ d.interface.toList ++ ':' :: rest) (some d)
  | nothing {line : List Char} (h : Skipped line) : Shows line none

/-! ## Reading a line -/

theorem column_eq {place n : Nat} (h : NumberAt columns place n) : column columns place = n := by
  rw [column, numberAt_iff.mp h, Option.getD_some]

theorem trim_name {leading name : List Char} (hleading : Blanks leading)
    (hblank : ∀ c ∈ name, isBlank c = false) : trim (leading ++ name) = name := by
  by_cases h : name = []
  · rw [h, List.append_nil, trim_blanks hleading]
  · have htrim := trim_word ⟨h, hblank⟩ hleading blanks_nil
    rwa [List.append_nil] at htrim

theorem ofLine?_of_cut {name : List Char} (h : cut ':' line = some (name, rest))
    (hspells : Spells rest columns) :
    ofLine? line = if columns.length < 14 then none else some {
      interface := String.ofList (trim name)
      bytesReceived := column columns 0
      packetsReceived := column columns 1
      errorsReceiving := column columns 2
      bytesSent := column columns 8
      packetsSent := column columns 9
      errorsSending := column columns 10
      collisions := column columns 13 } := by
  simp only [ofLine?, h, hspells.words_eq]

theorem Skipped.ofLine?_eq (h : Skipped line) : ofLine? line = none := by
  cases h with
  | noColon h => rw [ofLine?, cut_eq_none h]
  | fewColumns hcolon hspells h => rw [ofLine?_of_cut (cut_append hcolon _) hspells, if_pos h]

theorem Shows.ofLine?_eq {shown : Option NetDev} (h : Shows line shown) : ofLine? line = shown := by
  cases h with
  | nothing h => exact h.ofLine?_eq
  | @interface leading rest columns d hleading hcolon hblank hspells hcounts =>
    have hnoColon : ':' ∉ leading ++ d.interface.toList :=
      List.not_mem_append (hleading.notMem (by decide)) hcolon
    rw [ofLine?_of_cut (cut_append hnoColon rest) hspells, if_neg (Nat.not_lt.mpr hcounts.enough),
      trim_name hleading hblank, String.ofList_toList, column_eq hcounts.bytesReceived,
      column_eq hcounts.packetsReceived, column_eq hcounts.errorsReceiving,
      column_eq hcounts.bytesSent, column_eq hcounts.packetsSent, column_eq hcounts.errorsSending,
      column_eq hcounts.collisions]

theorem ofLine?_dropReturn (line : List Char) : ofLine? (dropReturn line) = ofLine? line := by
  rcases dropReturn_cases line with h | h
  · rw [h]
  · conv => rhs; rw [h]
    rw [ofLine?, ofLine?, cut_append_singleton (by decide)]
    cases cut ':' (dropReturn line) with
    | none => rfl
    | some parts =>
      have hreturn : Blanks ['\r'] := by decide
      have hwords := words_append_blanks hreturn parts.2
      simp only [Option.map_some, hwords]

/-! ## Tables -/

section Table

variable {first second : List Char} {body body' : List (List Char)}

theorem parse_joined (h : ∀ l ∈ first :: second :: body, '\n' ∉ l) :
    parse (joined (first :: second :: body)) = body.filterMap ofLine? := by
  rw [parse, drop_lines_joined h, filterMap_linesOfPieces ofLine?_dropReturn rfl]

theorem filterMap_ofLine? {shown : List (Option NetDev)} (h : List.Forall₂ Shows body shown) :
    body.filterMap ofLine? = shown.reduceOption := by
  induction h with
  | nil => rfl
  | cons hline _ ih => rw [List.filterMap_cons, hline.ofLine?_eq, ih]; rfl

/-- Lines of a table with lines that show nothing put between them, before or after. -/
inductive Interleaves : List (List Char) → List (List Char) → Prop
  | nil : Interleaves [] []
  | line (line : List Char) {body body' : List (List Char)} (h : Interleaves body body') :
      Interleaves (line :: body) (line :: body')
  | skipped {line : List Char} {body body' : List (List Char)} (hline : Skipped line)
      (h : Interleaves body body') : Interleaves body (line :: body')

theorem Interleaves.filterMap_eq (h : Interleaves body body') :
    body'.filterMap ofLine? = body.filterMap ofLine? := by
  induction h with
  | nil => rfl
  | line line _ ih => rw [List.filterMap_cons, List.filterMap_cons, ih]
  | skipped hline _ ih => rw [List.filterMap_cons_none hline.ofLine?_eq, ih]

theorem Interleaves.subset (h : Interleaves body body') : body ⊆ body' := by
  induction h with
  | nil => exact List.Subset.refl _
  | line line _ ih => exact List.cons_subset_cons line ih
  | skipped _ _ ih => exact List.subset_cons_of_subset _ ih

/-- A table of interfaces is read back, whatever its two heading lines say and however its lines are
laid out. Lines that show no interface can be put anywhere after the headings without a difference,
whatever the other lines hold. -/
theorem parse_undoes_table (first second : List Char) (body : List (List Char))
    (h : ∀ l ∈ first :: second :: body, '\n' ∉ l) :
    (∀ shown, List.Forall₂ Shows body shown →
      parse (joined (first :: second :: body)) = shown.reduceOption) ∧
    ∀ fewer, Interleaves fewer body →
      parse (joined (first :: second :: body)) = parse (joined (first :: second :: fewer)) := by
  rw [parse_joined h]
  refine ⟨fun shown hshown => filterMap_ofLine? hshown, fun fewer hfewer => ?_⟩
  have hlines : ∀ l ∈ first :: second :: fewer, '\n' ∉ l := fun l hl =>
    h l (List.cons_subset_cons _ (List.cons_subset_cons _ hfewer.subset) hl)
  rw [parse_joined hlines, hfewer.filterMap_eq]

end Table

/-- An interface with a counter that touches the colon, in exactly 14 columns. -/
def gluedInterface : NetDev := ⟨"eth0", 4294967296, 10, 1, 20, 5, 2, 7⟩

def gluedColumns : List Char := "4294967296 10 1 0 0 0 0 0 20 5 2 0 0 7".toList

/-- An interface with a sign, zeros and a wide blank before its first counter. One of the others is
the largest number that fits. -/
def spacedInterface : NetDev := ⟨"lo", 7, 1, 0, 18446744073709551615, 4, 3, 2⟩

def spacedColumns : List Char :=
  "\u2003 +07 1 0 0 0 0 0 0\t18446744073709551615 4 3 0 0 2 0 0\r".toList

def gluedLine : List Char := [' ', ' '] ++ gluedInterface.interface.toList ++ ':' :: gluedColumns

def spacedLine : List Char := [] ++ spacedInterface.interface.toList ++ ':' :: spacedColumns

def shortLine : List Char := "eth1".toList ++ ':' :: " 1 2 3".toList

/-- A table of the two, with a line without a colon, a line of three columns and an empty line. -/
def mixedTable : List (List Char) :=
  [gluedLine, "none".toList, spacedLine, shortLine, []]

theorem shortLine_skipped : Skipped shortLine :=
  .fewColumns (by decide) (spells_words _) (by decide +kernel)

theorem mixedTable_shows :
    List.Forall₂ Shows mixedTable
      [some gluedInterface, none, some spacedInterface, none, none] := by
  have hglued : Counts (words gluedColumns) gluedInterface := by constructor <;> decide +kernel
  have hspaced : Counts (words spacedColumns) spacedInterface := by constructor <;> decide +kernel
  have heth : IsWord gluedInterface.interface.toList := by decide
  have hlo : IsWord spacedInterface.interface.toList := by decide
  have hfirst : Shows gluedLine gluedInterface :=
    .interface (by decide) (by decide) heth.2 (spells_words _) hglued
  have hsecond : Shows spacedLine spacedInterface :=
    .interface (by decide) (by decide) hlo.2 (spells_words _) hspaced
  exact .cons hfirst (.cons (.nothing (.noColon (by decide))) (.cons hsecond
    (.cons (.nothing shortLine_skipped) (.cons (.nothing (.noColon (by decide))) .nil))))

theorem parse_undoes_mixedTable :
    let headings := ["Inter-|".toList, " face |".toList]
    let rows := [gluedLine, spacedLine]
    joined (headings ++ mixedTable) =
      "Inter-|\n face |\n  eth0:4294967296 10 1 0 0 0 0 0 20 5 2 0 0 7\nnone\n" ++
        "lo:\u2003 +07 1 0 0 0 0 0 0\t18446744073709551615 4 3 0 0 2 0 0\r\neth1: 1 2 3\n" ∧
    (∀ l ∈ headings ++ mixedTable, '\n' ∉ l) ∧ Interleaves rows mixedTable ∧
    parse (joined (headings ++ mixedTable)) = [gluedInterface, spacedInterface] ∧
    parse (joined (headings ++ rows)) = [gluedInterface, spacedInterface] := by
  intro headings rows
  have hlines : ∀ l ∈ headings ++ mixedTable, '\n' ∉ l := by decide +kernel
  have hrows : Interleaves rows mixedTable :=
    .line _ (.skipped (.noColon (by decide)) (.line _ (.skipped shortLine_skipped
      (.skipped (.noColon (by decide)) .nil))))
  obtain ⟨hread, hskipped⟩ :=
    parse_undoes_table "Inter-|".toList " face |".toList mixedTable hlines
  have hparse := hread _ mixedTable_shows
  exact ⟨by decide +kernel, hlines, hrows, hparse, (hskipped rows hrows).symm.trans hparse⟩

end SystemMetrics.Proc.NetDev
