import SystemMetrics.Tree.Content
import SystemMetrics.Tree.Path

/-!
# File trees in memory

A tree of files, directories and links with owners, in which single paths can be denied. One path
may be a file and a directory at the same time. Adding something also adds the directories above it,
and removing a path removes everything below it.
-/

namespace SystemMetrics

structure MemoryTree where
  files : List (Path × Content) := []
  directories : List Path := []
  links : List (Path × Path) := []
  /-- Owner and group of the paths that have been given one. -/
  owners : List (Path × (Nat × Nat)) := []
  denied : List Path := []
  deriving Inhabited

namespace MemoryTree

/-! ## Tables keyed by path -/

def find? {α : Type} (table : List (Path × α)) (p : Path) : Option α :=
  (table.find? fun (q, _) => q.same p).map (·.2)

/-- Sets the value of a path; a path that is there keeps its spelling and its place. -/
def put {α : Type} (p : Path) (value : α) : List (Path × α) → List (Path × α)
  | [] => [(p, value)]
  | (q, old) :: rest => if q.same p then (q, value) :: rest else (q, old) :: put p value rest

def holds (paths : List Path) (p : Path) : Bool := paths.any (·.same p)

def insertPath (p : Path) (paths : List Path) : List Path :=
  if holds paths p then paths else paths ++ [p]

theorem find?_put {α : Type} (p q : Path) (value : α) (table : List (Path × α)) :
    find? (put p value table) q = if p.same q then some value else find? table q := by
  induction table with
  | nil =>
    simp only [find?, put, List.find?_cons, List.find?_nil]
    split <;> simp_all
  | cons entry rest ih =>
    obtain ⟨r, old⟩ := entry
    simp only [find?] at ih
    by_cases hrp : r.same p = true
    · have hq := Path.same_left hrp q
      by_cases hpq : p.same q = true <;> simp_all [find?, put]
    · by_cases hrq : r.same q = true
      · have hpq : p.same q = false := by
          rw [Bool.eq_false_iff]
          intro hpq
          rw [Path.same_comm] at hpq
          exact hrp (Path.same_trans hrq hpq)
        simp_all [find?, put]
      · simp_all [find?, put]

theorem holds_insertPath (p q : Path) (paths : List Path) :
    holds (insertPath p paths) q = (holds paths q || p.same q) := by
  unfold insertPath
  split
  · rename_i h
    obtain ⟨r, hr, hrp⟩ := List.any_eq_true.1 h
    by_cases hpq : p.same q = true
    · have : holds paths q = true := List.any_eq_true.2 ⟨r, hr, Path.same_trans hrp hpq⟩
      simp [this]
    · simp [hpq]
  · simp [holds]

/-! ## Changes -/

/-- Adds the directories above a path. -/
def addParents (p : Path) (t : MemoryTree) : MemoryTree :=
  { t with directories := p.ancestors.foldl (fun ds d => insertPath d ds) t.directories }

def addContent (p : Path) (content : Content) (t : MemoryTree) : MemoryTree :=
  let t := t.addParents p
  { t with files := put p content t.files }

def addFile (p : Path) (text : String) (t : MemoryTree) : MemoryTree := t.addContent p (.text text)

def addDirectory (p : Path) (t : MemoryTree) : MemoryTree :=
  let t := t.addParents p
  { t with directories := insertPath p t.directories }

def addLink (p target : Path) (t : MemoryTree) : MemoryTree :=
  let t := t.addParents p
  { t with links := put p target t.links }

def setOwner (p : Path) (owner : Nat × Nat) (t : MemoryTree) : MemoryTree :=
  { t with owners := put p owner t.owners }

/-- Makes reads of a path fail. -/
def deny (p : Path) (t : MemoryTree) : MemoryTree := { t with denied := insertPath p t.denied }

def allow (p : Path) (t : MemoryTree) : MemoryTree :=
  { t with denied := t.denied.filter fun q => !q.same p }

/-- Removes a path and everything below it, with the owners. -/
def remove (p : Path) (t : MemoryTree) : MemoryTree :=
  { t with
    files := t.files.filter fun (q, _) => !q.isBelow p
    directories := t.directories.filter fun q => !q.isBelow p
    links := t.links.filter fun (q, _) => !q.isBelow p
    owners := t.owners.filter fun (q, _) => !q.isBelow p }

/-! ## Questions -/

def missing (what : String) (p : Path) : ReadError :=
  .described .notFound (what ++ " not found: " ++ p.quoted)

def checkAccess (p : Path) (t : MemoryTree) : Except ReadError Unit :=
  if holds t.denied p then
    .error (.described .permissionDenied ("permission denied: " ++ p.quoted))
  else .ok ()

def readContent (p : Path) (t : MemoryTree) : Except ReadError Content := do
  t.checkAccess p
  match find? t.files p with
  | some content => .ok content
  | none => .error (missing "file" p)

def readLink (p : Path) (t : MemoryTree) : Except ReadError Path := do
  t.checkAccess p
  match find? t.links p with
  | some target => .ok target
  | none => .error (missing "link" p)

def isDirectory (p : Path) (t : MemoryTree) : Bool := holds t.directories p

def contains (p : Path) (t : MemoryTree) : Bool :=
  (find? t.files p).isSome || t.isDirectory p || (find? t.links p).isSome

/-- Every path of the tree, each at least once. -/
def paths (t : MemoryTree) : List Path :=
  t.files.map (·.1) ++ t.links.map (·.1) ++ t.directories

def isChildOf (p child : Path) : Bool :=
  !child.same p && match child.parent? with
    | some q => q.same p
    | none => false

/-- The paths right below a directory, each once. -/
def children (p : Path) (t : MemoryTree) : Except ReadError (List Path) :=
  if t.isDirectory p then
    .ok ((t.paths.filter (isChildOf p)).foldl (fun found q => insertPath q found) [])
  else .error (missing "directory" p)

def owner (p : Path) (t : MemoryTree) : Except ReadError (Nat × Nat) :=
  if (find? t.files p).isSome || t.isDirectory p then .ok ((find? t.owners p).getD (0, 0))
  else .error (missing "path" p)

/-- Adds the directory of a process with its usual files; without I/O text, `io` is left out. -/
def addProcess (pid : Nat) (stat statm io cmdline : String) (t : MemoryTree) : MemoryTree :=
  let base := Path.ofText ("/proc/" ++ toString pid)
  let t := t.addDirectory base
  let t := t.addFile (base.join "stat") stat
  let t := t.addFile (base.join "statm") statm
  let t := if io.isEmpty then t else t.addFile (base.join "io") io
  t.addFile (base.join "cmdline") cmdline

end MemoryTree

end SystemMetrics
