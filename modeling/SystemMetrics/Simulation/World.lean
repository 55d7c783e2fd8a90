import SystemMetrics.Machine
import SystemMetrics.Simulation.Kernel
import SystemMetrics.Tree.Disk
import SystemMetrics.Tree.Memory

/-!
# Simulated machines

A world is a machine held in memory: a file tree, a kernel, tables of settings and interfaces that
can stand in for those of the kernel, and clocks. Reads of single paths can be made to fail with an
error number, and changes can be set to happen right before or after a certain read of a path.
-/

namespace SystemMetrics

/-- The file tree of a world. -/
inductive Storage where
  | memory (t : MemoryTree)
  | disk (d : Disk)
  deriving Inhabited

/-- A change to the files of a world. -/
inductive Change where
  | addFile (path text : String)
  | addBytes (path : String) (bytes : List UInt8)
  | addDirectory (path : String)
  | addLink (path target : String)
  | setOwner (path : String) (uid gid : Nat)
  | deny (path : String)
  | allow (path : String)
  | remove (path : String)
  | addProcess (pid : Nat) (stat statm io cmdline : String)
  /-- Lets every read of a path fail. -/
  | fault (path : String) (errno : Int)
  | unfault (path : String)
  /-- Lets every question for the owner of a path fail. -/
  | faultOwner (path : String) (errno : Int)
  /-- Runs changes once, right before or after the read of a path that follows `skip` others. -/
  | onRead (path : String) (skip : Nat) (after : Bool) (changes : List Change)

/-- Changes that wait for a read. -/
structure Hook where
  path : Path
  /-- How many reads of the path come first. -/
  skip : Nat
  after : Bool
  changes : List Change

structure World where
  storage : Storage := .memory {}
  faults : List (Path × Int) := []
  ownerFaults : List (Path × Int) := []
  hooks : List Hook := []
  kernel : Kernel := {}
  /-- Whether settings and interfaces come from the kernel and not from the two tables. -/
  usesKernel : Bool := false
  settings : List (Setting × Int) :=
    [(.processorsOnline, 4), (.clockTicks, 100), (.pageSize, 4096)]
  interfaces : List (String × InterfaceAttributes) := []
  errno : Int := 0
  wallClock : Timestamp := ⟨1700001000000⟩
  /-- The machine has been up for some days. -/
  monotonicClock : Nat := 500000000000000
  deriving Inhabited

/-! ## File trees -/

namespace Storage

def onMemory (s : Storage) (f : MemoryTree → MemoryTree) : Storage :=
  match s with
  | .memory t => .memory (f t)
  | .disk d => .disk d

def addContent (path : String) (content : Content) : Storage → Storage
  | .memory t => .memory (t.addContent (.ofText path) content)
  | .disk d => .disk (d.addFile path content)

def addDirectory (path : String) : Storage → Storage
  | .memory t => .memory (t.addDirectory (.ofText path))
  | .disk d => .disk (d.addDirectory path)

def addLink (path target : String) : Storage → Storage
  | .memory t => .memory (t.addLink (.ofText path) (.ofText target))
  | .disk d => .disk (d.addLink path target)

def remove (path : String) : Storage → Storage
  | .memory t => .memory (t.remove (.ofText path))
  | .disk d => .disk (d.remove path)

def addProcess (pid : Nat) (stat statm io cmdline : String) : Storage → Storage
  | .memory t => .memory (t.addProcess pid stat statm io cmdline)
  | .disk d =>
    let base := "/proc/" ++ toString pid
    let d := d.addDirectory base
    let d := d.addFile (base ++ "/stat") (.text stat)
    let d := d.addFile (base ++ "/statm") (.text statm)
    let d := if io.isEmpty then d else d.addFile (base ++ "/io") (.text io)
    .disk (d.addFile (base ++ "/cmdline") (.text cmdline))

def readContent (p : Path) : Storage → Except ReadError Content
  | .memory t => t.readContent p
  | .disk d => d.readContent p.text

def readLink (p : Path) : Storage → Except ReadError String
  | .memory t => (t.readLink p).map (·.text)
  | .disk d => d.readLink p.text

def children (p : Path) : Storage → Except ReadError (List Path)
  | .memory t => t.children p
  | .disk d => (d.children p.text).map fun names => names.map .ofText

def owner (p : Path) : Storage → Except ReadError (Nat × Nat)
  | .memory t => t.owner p
  | .disk d => d.owner p.text

def contains (p : Path) : Storage → Bool
  | .memory t => t.contains p
  | .disk d => d.contains p.text

end Storage

namespace World

/-! ## Changes -/

def apply (w : World) : Change → World
  | .addFile path text => { w with storage := w.storage.addContent path (.text text) }
  | .addBytes path bytes => { w with storage := w.storage.addContent path (.bytes bytes) }
  | .addDirectory path => { w with storage := w.storage.addDirectory path }
  | .addLink path target => { w with storage := w.storage.addLink path target }
  | .setOwner path uid gid =>
    { w with storage := w.storage.onMemory (·.setOwner (.ofText path) (uid, gid)) }
  | .deny path => { w with storage := w.storage.onMemory (·.deny (.ofText path)) }
  | .allow path => { w with storage := w.storage.onMemory (·.allow (.ofText path)) }
  | .remove path => { w with storage := w.storage.remove path }
  | .addProcess pid stat statm io cmdline =>
    { w with storage := w.storage.addProcess pid stat statm io cmdline }
  | .fault path errno => { w with faults := MemoryTree.put (.ofText path) errno w.faults }
  | .unfault path =>
    let p := Path.ofText path
    { w with faults := w.faults.filter fun (q, _) => !q.same p }
  | .faultOwner path errno =>
    { w with ownerFaults := MemoryTree.put (.ofText path) errno w.ownerFaults }
  | .onRead path skip after changes =>
    { w with hooks := w.hooks ++ [⟨.ofText path, skip, after, changes⟩] }

def applyAll (w : World) (changes : List Change) : World := changes.foldl apply w

/-! ## Reads -/

/-- Whether a hook fires at the present read of a path. -/
def isDue (p : Path) (h : Hook) : Bool := h.path.same p && h.skip == 0

/-- The hooks that stay after a read of a path that they do not fire at. -/
def countDown (p : Path) (hooks : List Hook) : List Hook :=
  (hooks.filter fun h => !isDue p h).map fun h =>
    if h.path.same p then { h with skip := h.skip - 1 } else h

/-- A read of a path with everything that happens around it. -/
def readAt {α : Type} (p : Path) (read : Storage → Except ReadError α) (w : World) :
    Except ReadError α × World :=
  let due := w.hooks.filter (isDue p)
  let changes (after : Bool) := (due.filter (·.after == after)).flatMap (·.changes)
  let w := { w with hooks := countDown p w.hooks }
  let w := w.applyAll (changes false)
  let result := match MemoryTree.find? w.faults p with
    | some errno => .error (.os errno)
    | none => read w.storage
  (result, w.applyAll (changes true))

def readText (p : Path) : World → Except ReadError String × World :=
  readAt p fun s => (s.readContent p).bind Content.asText

def readBytes (p : Path) : World → Except ReadError (List UInt8) × World :=
  readAt p fun s => (s.readContent p).map Content.asBytes

def owner (w : World) (p : Path) : Except ReadError (Nat × Nat) :=
  match MemoryTree.find? w.ownerFaults p with
  | some errno => .error (.os errno)
  | none => w.storage.owner p

def contains (w : World) (p : Path) : Bool := w.storage.contains p

/-! ## The machine -/

def setting (w : World) (key : Setting) : Option Int :=
  if w.usesKernel then w.kernel.setting key else w.settings.lookup key

def attributes (w : World) (name : String) : InterfaceAttributes :=
  if w.usesKernel then w.kernel.attributes name else (w.interfaces.lookup name).getD {}

/-- Sets or clears an entry of the table of settings. -/
def setSetting (w : World) (key : Setting) (value : Option Int) : World :=
  let others := w.settings.filter fun (k, _) => k != key
  { w with settings := match value with
    | some v => (key, v) :: others
    | none => others }

def setInterface (w : World) (name : String) (a : InterfaceAttributes) : World :=
  { w with interfaces := (name, a) :: w.interfaces.filter fun (n, _) => n != name }

/-- The machine that a world is. -/
def machine : Machine (Observing World) where
  readText p := Observing.answer (readText p)
  readBytes p := Observing.answer (readBytes p)
  listDirectory p := Observing.answer (readAt p fun s => s.children p)
  readLink p := Observing.answer (readAt p fun s => s.readLink p)
  owner p := Observing.gets fun w => w.owner p
  setting key := Observing.gets fun w => w.setting key
  lastErrno := Observing.gets (·.errno)
  interfaceAttributes name := Observing.gets fun w => w.attributes name
  kill pid signal := Observing.answer fun w =>
    let (errno, kernel) := w.kernel.kill pid signal
    (errno, { w with kernel })
  wallClock := Observing.gets (·.wallClock)
  monotonicClock := Observing.gets (·.monotonicClock)
  log := Observing.log

end World

end SystemMetrics
