import SystemMetrics.Network.Interface

/-!
# The table of interfaces

The interfaces that are tracked, by name. Reconciling refreshes the tracked interfaces that are
discovered, drops the others, and adds new ones whose flags are known and whose address is no
loopback address. The registry of the discovery is handed in and out, since others share it.
-/

namespace SystemMetrics

structure InterfaceTable where
  interfaces : List Interface := []
  deriving DecidableEq, Repr

namespace InterfaceTable

variable {m : Type → Type} [Monad m]

def size (t : InterfaceTable) : Nat := t.interfaces.length

def find? (t : InterfaceTable) (name : String) : Option Interface :=
  t.interfaces.find? fun i => i.name == name

/-! ## Discovered interfaces by name -/

/-- Puts an interface into a list in ascending order of names, instead of one of the same name. -/
def insert (i : Interface) : List Interface → List Interface
  | [] => [i]
  | j :: rest =>
    if i.name < j.name then i :: j :: rest
    else if i.name = j.name then i :: rest
    else j :: insert i rest

/-- The discovered interfaces in ascending order of names; of a repeated name the last counts. -/
def byName (found : List Interface) : List Interface :=
  found.foldl (fun sorted i => insert i sorted) []

/-! ## Updates -/

/-- Whether a new interface is worth tracking. -/
def isTrackable (i : Interface) : Bool := i.isStateKnown && !i.isLoopback

/-- Gives the tracked interfaces their discovered values, and leaves the others as they are. -/
def refreshed (latest : List Interface) (t : InterfaceTable) : InterfaceTable :=
  { t with interfaces := t.interfaces.map fun i =>
      (latest.find? fun j => j.name == i.name).getD i }

/-- The tracked interfaces that are discovered, followed by the new ones in order of names. -/
def reconciled (latest : List Interface) (t : InterfaceTable) : InterfaceTable :=
  let survivors := t.interfaces.filterMap fun i => latest.find? fun j => j.name == i.name
  let new := latest.filter fun j => !(t.interfaces.any fun i => i.name == j.name)
  { t with interfaces := survivors ++ new.filter isTrackable }

/-- With `trackedOnly`, refreshes the tracked interfaces; otherwise reconciles the table. -/
def update (probe : Probe m) (trackedOnly : Bool) (t : InterfaceTable) (r : Registry) :
    m (Except Fault Unit × InterfaceTable × Registry) := do
  match ← Interface.discover probe r with
  | (.error fault, r) => return (.error fault, t, r)
  | (.ok found, r) =>
    let latest := byName found
    return (.ok (), if trackedOnly then t.refreshed latest else t.reconciled latest, r)

/-- Fills the table. -/
def start (probe : Probe m) (t : InterfaceTable) (r : Registry) :
    m (Except Fault Unit × InterfaceTable × Registry) := do
  match ← t.update probe false r with
  | (.error fault, t, r) => return (.error fault, t, r)
  | (.ok (), t, r) =>
    probe.log (.interfacesStarted t.size)
    return (.ok (), t, r)

end InterfaceTable

end SystemMetrics
