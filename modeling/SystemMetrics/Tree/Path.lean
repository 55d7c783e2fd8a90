import SystemMetrics.Text.Quoted

/-!
# Paths

A path is kept as it was written. Two spellings name the same place if they have the same parts:
repeated slashes, slashes at the end and dots inside do not count, while `..` is a part like any
other.
-/

namespace SystemMetrics

/-- One step of a path. -/
inductive PathPart where
  | root
  /-- A dot at the start of a relative path. -/
  | here
  | up
  | name (s : String)
  deriving DecidableEq, Repr

/-- The pieces of a path between slashes as parts, without those that do not count. -/
def PathPart.ofPieces (pieces : List (List Char)) : List PathPart :=
  pieces.filterMap fun piece => match piece with
    | [] => none
    | ['.'] => none
    | ['.', '.'] => some .up
    | _ => some (.name (String.ofList piece))

/-- The parts of a path given as text. -/
def PathPart.ofChars (text : List Char) : List PathPart :=
  match text with
  | [] => []
  | _ =>
    match text.splitOn '/' with
    | [] :: rest => .root :: ofPieces rest
    | ['.'] :: rest => .here :: ofPieces rest
    | pieces => ofPieces pieces

/-- The rank of a part; names come last. -/
def PathPart.rank : PathPart → Nat
  | .root => 0
  | .here => 1
  | .up => 2
  | .name _ => 3

/-- The name of a part, empty if it is none. -/
def PathPart.text : PathPart → String
  | .name s => s
  | _ => ""

/-- The order of parts: by rank, names by their characters. -/
def PathPart.order (a b : PathPart) : Ordering :=
  (compare a.rank b.rank).then (compare a.text b.text)

structure Path where
  text : String
  parts : List PathPart
  deriving DecidableEq, Repr

namespace Path

def ofText (text : String) : Path := ⟨text, PathPart.ofChars text.toList⟩

/-- Whether two paths name the same place. -/
def same (p q : Path) : Bool := p.parts == q.parts

theorem same_comm (p q : Path) : p.same q = q.same p := BEq.comm

theorem same_trans {p q r : Path} (hpq : p.same q = true) (hqr : q.same r = true) :
    p.same r = true := by
  simp_all [same]

/-- Paths that name the same place are interchangeable. -/
theorem same_left {p q : Path} (h : p.same q = true) (r : Path) : p.same r = q.same r := by
  simp_all [same]

/-- The order of two lists of parts by the first difference; a shorter one comes first. -/
def orderParts : List PathPart → List PathPart → Ordering
  | [], [] => .eq
  | [], _ :: _ => .lt
  | _ :: _, [] => .gt
  | a :: as, b :: bs => (a.order b).then (orderParts as bs)

/-- The order of paths, which depends on their parts and not on their spelling. -/
def le (p q : Path) : Bool := (orderParts p.parts q.parts).isLE

/-- Whether `p` is `q` or lies below it. -/
def isBelow (p q : Path) : Bool := q.parts.isPrefixOf p.parts

/-- Appends a path; an absolute one replaces what stands before it. -/
def joinText (base rest : String) : String :=
  if rest.toList.head? = some '/' then rest
  else if base.isEmpty || base.toList.getLast? = some '/' then base ++ rest
  else base ++ "/" ++ rest

def join (p : Path) (rest : String) : Path := ofText (joinText p.text rest)

/-- The last part, if it is a name. -/
def fileName? (p : Path) : Option String :=
  match p.parts.getLast? with
  | some (.name s) => some s
  | _ => none

/-- Whether a piece between slashes counts as no part of its own. -/
def isIdle (piece : List Char) : Bool := piece.isEmpty || piece == ['.']

/-- The pieces of a path without the idle ones at the end; the first piece always stays. -/
def dropIdle : List (List Char) → List (List Char)
  | [] => []
  | first :: rest => first :: (rest.reverse.dropWhile isIdle).reverse

/-- The spelling of the path one step up. -/
def parentText (text : List Char) : List Char :=
  let pieces := dropIdle (text.splitOn '/')
  match dropIdle pieces.dropLast with
  | [[]] => ['/']
  | above => ['/'].intercalate above

/-- The path one step up; the root and the empty path have none. -/
def parent? (p : Path) : Option Path :=
  match p.parts.getLast? with
  | none => none
  | some .root => none
  | some _ => some ⟨String.ofList (parentText p.text.toList), p.parts.dropLast⟩

/-- The paths above a path, the nearest first, without the empty path. -/
def ancestors (p : Path) : List Path :=
  go p.parts.length p
where
  go : Nat → Path → List Path
    | 0, _ => []
    | n + 1, p => match p.parent? with
      | none => []
      | some q => if q.text.isEmpty then go n q else q :: go n q

/-- The path between quotation marks. -/
def quoted (p : Path) : String := Text.quoted p.text

end Path

end SystemMetrics
