import Std.Data.HashMap
import SystemMetrics.Tree.Content
import SystemMetrics.Tree.Path

/-!
# File trees on disk

A tree with the rules of a real file system: every name in a directory is a file, a directory or a
symbolic link, links are followed on the way to a place, and failures are error numbers. The root
stands in a directory of its own, of which nothing else is known. Everything belongs to user and
group zero. A change that the file system refuses leaves the tree as it is.
-/

namespace SystemMetrics

inductive DiskNode where
  | file (content : Content)
  | directory
  /-- A symbolic link with the text of its target. -/
  | link (target : String)
  deriving DecidableEq, Repr

/-- The nodes of the tree, each at the names that lead to it; the root is at no names. -/
structure Disk where
  nodes : Std.HashMap (List String) DiskNode := .ofList [([], .directory)]
  deriving Inhabited

namespace Disk

/-! ## Paths -/

/-- A step on the way to a place. -/
inductive Step where
  | here
  | up
  | name (s : String)
  deriving DecidableEq

/-- The step that a piece between slashes stands for. -/
def Step.ofPiece : List Char → Step
  | [] => .here
  | ['.'] => .here
  | ['.', '.'] => .up
  | piece => .name (String.ofList piece)

/-- The steps that a path spells out between its slashes. -/
def spelledSteps (text : String) : List Step :=
  ((text.toList.splitOn '/').filter (!·.isEmpty)).map Step.ofPiece

/-- The steps of a path; a slash at the end is a step to the directory itself. -/
def steps (text : String) : List Step :=
  spelledSteps text ++ if text.toList.getLast? = some '/' then [.here] else []

/-- The most links followed on the way to one place. -/
def maxLinks : Nat := 40

/-- The longest name in a directory, in bytes. -/
def maxNameBytes : Nat := 255

/-- The longest path, in bytes; the system counts those that lead to the root as well. -/
def maxPathBytes : Nat := 4065

/-- The longest target of a link, in bytes. -/
def maxTargetBytes : Nat := 4095

/-! ## Walks -/

/-- A place is given by names below the root, or lies outside the tree. -/
abbrev Place := Option (List String)

/-- The place one step up. -/
def above : Place → Place
  | none => none
  | some names => if names.isEmpty then none else some names.dropLast

def nodeAt (d : Disk) : Place → Option DiskNode
  | none => some .directory
  | some names => d.nodes[names]?

/-- What a directory has under a name. -/
def nodeBelow (d : Disk) (place : Place) (s : String) : Option DiskNode :=
  place.bind fun names => d.nodes[names ++ [s]]?

/-- The directory that the target of a link is seen from. -/
def linkStart (target : String) (place : Place) : Place :=
  if target.toList.head? = some '/' then some [] else place

/-- Where a walk has come to, and how many links it may still follow. -/
structure Position where
  place : Place
  links : Nat

/-- Follows steps from the directory at `place`. The last step follows a link only if
`followLast`. -/
def walk (d : Disk) (followLast : Bool) :
    (links : Nat) → (place : Place) → List Step → Except ReadError Position
  | links, place, [] => .ok ⟨place, links⟩
  | links, place, step :: rest =>
    match d.nodeAt place with
    | some .directory =>
      match step with
      | .here => walk d followLast links place rest
      | .up => walk d followLast links (above place) rest
      | .name s =>
        if s.utf8ByteSize > maxNameBytes then .error (.os Errno.nameTooLong)
        else
          let next := place.map (· ++ [s])
          match d.nodeBelow place s with
          | none => .error (.os Errno.noEntry)
          | some (.link target) =>
            if rest.isEmpty && !followLast then .ok ⟨next, links⟩
            else match links with
              | 0 => .error (.os Errno.linkLoop)
              | n + 1 => walk d followLast n (linkStart target place) (steps target ++ rest)
          | some _ => walk d followLast links next rest
    | some _ => .error (.os Errno.notDirectory)
    | none => .error (.os Errno.noEntry)
  termination_by links _ steps => (links, steps.length)

/-- Where walks begin. -/
def root : Position := ⟨some [], maxLinks⟩

/-- Follows steps from a position. -/
def follow (d : Disk) (start : Position) (steps : List Step) : Except ReadError Position :=
  d.walk true start.links start.place steps

/-- Whether the system takes a path at all. -/
def checkPath (path : String) : Except ReadError Unit :=
  if path.toList.contains '\x00' then
    .error (.described .invalidInput "file name contained an unexpected NUL byte")
  else if path.utf8ByteSize > maxPathBytes then .error (.os Errno.nameTooLong)
  else .ok ()

/-- The place that a path leads to. -/
def resolve (path : String) (followLast : Bool) (d : Disk) : Except ReadError Place := do
  checkPath path
  return (← d.walk followLast maxLinks (some []) (steps path)).place

/-! ## Questions -/

def nodeOf (path : String) (d : Disk) : Except ReadError DiskNode := do
  match d.nodeAt (← d.resolve path true) with
  | some node => .ok node
  | none => .error (.os Errno.noEntry)

def readContent (path : String) (d : Disk) : Except ReadError Content := do
  match ← d.nodeOf path with
  | .file content => .ok content
  | .directory => .error (.os Errno.isDirectory)
  | .link _ => .error (.os Errno.linkLoop)

def readLink (path : String) (d : Disk) : Except ReadError String := do
  match d.nodeAt (← d.resolve path false) with
  | some (.link target) => .ok target
  | some _ => .error (.os Errno.invalid)
  | none => .error (.os Errno.noEntry)

/-- The names in a directory, in any order. -/
def namesIn (place : Place) (d : Disk) : List String :=
  d.nodes.keys.filterMap fun names =>
    if !names.isEmpty && place == some names.dropLast then names.getLast? else none

/-- The paths right below a directory; the empty path is the root. -/
def children (path : String) (d : Disk) : Except ReadError (List String) := do
  let place ← d.resolve path true
  let base := if path.isEmpty then "/" else path
  match d.nodeAt place with
  | some .directory => .ok ((d.namesIn place).map (Path.joinText base))
  | some _ => .error (.os Errno.notDirectory)
  | none => .error (.os Errno.noEntry)

def owner (path : String) (d : Disk) : Except ReadError (Nat × Nat) := do
  let _ ← d.nodeOf path
  return (0, 0)

def contains (path : String) (d : Disk) : Bool := (d.nodeOf path).toBool

/-! ## Changes -/

def put (names : List String) (node : DiskNode) (d : Disk) : Disk :=
  { d with nodes := d.nodes.insert names node }

/-- Adds a node under a name that is free in a directory. -/
def addBelow (place : Place) (s : String) (node : DiskNode) (d : Disk) : Disk :=
  match place with
  | none => d
  | some names =>
    if d.nodeAt place = some .directory && s.utf8ByteSize ≤ maxNameBytes
        && (d.nodeBelow place s).isNone then d.put (names ++ [s]) node
    else d

/-- Adds a node under the name at the end of a path, seen from a position. Where the last step is no
name, or the name is not free, nothing is added. -/
def addAt (start : Position) (path : List Step) (node : DiskNode) (d : Disk) : Disk :=
  match d.follow start path.dropLast, path.getLast? with
  | .ok position, some (.name s) => d.addBelow position.place s node
  | _, _ => d

/-- Adds the directories on the way of steps from a position, up to the first that cannot be
added. -/
def addDirectories (start : Position) : List Step → Disk → Disk
  | [], d => d
  | step :: rest, d =>
    let added := d.addAt start [step] .directory
    match added.follow start [step] with
    | .error _ => added
    | .ok next =>
      if added.nodeAt next.place = some .directory then addDirectories next rest added else added

/-- Adds the root, where it has been removed. -/
def addRoot (d : Disk) : Disk := if (d.nodeAt (some [])).isSome then d else d.put [] .directory

/-- Adds the directories above the end of a path. Dots at the end do not count, so that the
directory above `/a/b/.` is `/a`. -/
def addAbove (path : String) (d : Disk) : Disk :=
  match (spelledSteps path).filter (· ≠ .here) with
  | [] => d
  | counted =>
    if (checkPath (String.ofList (Path.parentText path.toList))).toBool then
      d.addRoot.addDirectories root counted.dropLast
    else d

/-- Adds a directory, after those above it. -/
def addDirectory (path : String) (d : Disk) : Disk :=
  if (checkPath path).toBool then
    match spelledSteps path with
    | [] => d.addRoot
    | spelled => (d.addAbove path).addAt root spelled .directory
  else d

/-- Writes a file from the directory at `place`. A link at the end leads to the file that is
written. -/
def writeFrom (content : Content) (d : Disk) : (links : Nat) → Place → List Step → Disk
  | links, place, path =>
    match d.walk true links place path.dropLast, path.getLast? with
    | .ok position, some (.name s) =>
      match d.nodeBelow position.place s with
      | none => d.addBelow position.place s (.file content)
      | some (.file _) => match position.place with
        | some names => d.put (names ++ [s]) (.file content)
        | none => d
      | some .directory => d
      | some (.link target) =>
        match links, position.links with
        | n + 1, left + 1 =>
          writeFrom content d (min n left) (linkStart target position.place) (steps target)
        | _, _ => d
    | _, _ => d
  termination_by links => links

/-- Writes a file, after the directories above it. -/
def addFile (path : String) (content : Content) (d : Disk) : Disk :=
  let d := d.addAbove path
  if (checkPath path).toBool then d.writeFrom content maxLinks (some []) (steps path) else d

/-- Whether the system takes a text as the target of a link. -/
def isTarget (target : String) : Bool :=
  !target.isEmpty && !target.toList.contains '\x00' && target.utf8ByteSize ≤ maxTargetBytes

/-- Adds a link, after the directories above it. -/
def addLink (path target : String) (d : Disk) : Disk :=
  let d := d.addAbove path
  if (checkPath path).toBool && isTarget target then d.addAt root (steps path) (.link target) else d

/-- Removes everything below a directory; outside the tree that is the tree itself. -/
def clear (place : Place) (d : Disk) : Disk :=
  match place with
  | none => { d with nodes := ∅ }
  | some names =>
    { d with nodes := d.nodes.filter fun other _ => other == names || !names.isPrefixOf other }

def erase (names : List String) (d : Disk) : Disk := { d with nodes := d.nodes.erase names }

/-- Removes the empty directory at the end of a path. It stays if the last step is no name, if the
name is that of a link, or if the way there led through what is no longer there. -/
def eraseDirectory (path : List Step) (d : Disk) : Disk :=
  match path.getLast?, d.follow root path.dropLast with
  | none, _ => d.erase []
  | some (.name s), .ok ⟨some names, _⟩ =>
    if d.nodeBelow (some names) s = some .directory then d.erase (names ++ [s]) else d
  | _, _ => d

/-- Removes what a path leads to. A link is removed itself; a directory loses all that is below it
before it goes. -/
def remove (path : String) (d : Disk) : Disk :=
  match d.resolve path false with
  | .error _ => d
  | .ok place =>
    match d.nodeAt place, place with
    | some .directory, _ => (d.clear place).eraseDirectory (spelledSteps path)
    | some _, some names => d.erase names
    | _, _ => d

end Disk

end SystemMetrics
