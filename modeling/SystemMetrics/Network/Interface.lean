import SystemMetrics.Probe
import SystemMetrics.Proc.NetDev

/-!
# Network interfaces

The counters and attributes of an interface, and the discovery that reads them. Only interfaces that
have been up or running at some time are discovered; a registry keeps their names. A discovery first
records an interface that is up or running and then asks whether it is registered.
-/

namespace SystemMetrics

/-- What is known about an interface; `none` is unknown. -/
structure Interface where
  name : String
  bytesReceived : Option Nat := none
  packetsReceived : Option Nat := none
  errorsReceiving : Option Nat := none
  bytesSent : Option Nat := none
  packetsSent : Option Nat := none
  errorsSending : Option Nat := none
  collisions : Option Nat := none
  address : Option Ipv4 := none
  netmask : Option Ipv4 := none
  broadcast : Option Ipv4 := none
  up : Option Bool := none
  running : Option Bool := none
  deriving DecidableEq, Repr

/-- The names of the interfaces that have been seen up or running. -/
structure Registry where
  names : List String := []
  deriving DecidableEq, Repr

namespace Registry

def contains (r : Registry) (name : String) : Bool := r.names.contains name

def size (r : Registry) : Nat := r.names.length

/-- Records a name; true if it is new. -/
def mark (r : Registry) (name : String) : Bool × Registry :=
  if r.contains name then (false, r) else (true, { r with names := r.names ++ [name] })

theorem contains_mark (r : Registry) (name other : String) :
    (r.mark name).2.contains other = (r.contains other || other == name) := by
  unfold mark
  split
  · rename_i h
    by_cases ho : other = name
    · simp_all
    · simp [ho]
  · simp only [contains, List.contains_eq_mem, List.mem_append, List.mem_singleton,
      Bool.decide_or]
    rfl

end Registry

namespace Interface

variable {m : Type → Type} [Monad m]

def isUpOrRunning (i : Interface) : Bool := i.up == some true || i.running == some true

/-- Whether both flags are known. -/
def isStateKnown (i : Interface) : Bool := i.up.isSome && i.running.isSome

/-- Whether the address is one of `127.0.0.*`. -/
def isLoopback (i : Interface) : Bool := i.address.any Ipv4.isLoopback

def ofRow (row : Proc.NetDev) (a : InterfaceAttributes) : Interface where
  name := row.interface
  bytesReceived := some row.bytesReceived
  packetsReceived := some row.packetsReceived
  errorsReceiving := some row.errorsReceiving
  bytesSent := some row.bytesSent
  packetsSent := some row.packetsSent
  errorsSending := some row.errorsSending
  collisions := some row.collisions
  address := a.address
  netmask := a.netmask
  broadcast := a.broadcast
  up := a.up
  running := a.running

/-- The registry after an interface has been seen. -/
def register (i : Interface) (r : Registry) : Registry :=
  if i.isUpOrRunning then (r.mark i.name).2 else r

/-- Looks at the rows of `net/dev` in order and keeps the interfaces that are registered. -/
def discoverRows (probe : Probe m) : List Proc.NetDev → Registry → m (List Interface × Registry)
  | [], r => return ([], r)
  | row :: rest, r => do
    let i := ofRow row (← probe.interfaceAttributes row.interface)
    let r := i.register r
    let (found, final) ← discoverRows probe rest r
    return (if r.contains i.name then i :: found else found, final)

/-- The interfaces that are listed and registered, in the order of the file, and the registry
afterwards. -/
def discover (probe : Probe m) (r : Registry) :
    m (Except Fault (List Interface) × Registry) := do
  match ← probe.netDev with
  | .error fault => return (.error fault, r)
  | .ok content =>
    let (found, r) ← discoverRows probe (Proc.NetDev.parse content) r
    return (.ok found, r)

/-- Discovers the interfaces and takes the values of the first one with this name. An interface that
is not discovered keeps its values. -/
def refresh (probe : Probe m) (i : Interface) (r : Registry) :
    m (Except Fault Unit × Interface × Registry) := do
  match ← discover probe r with
  | (.error fault, r) => return (.error fault, i, r)
  | (.ok found, r) =>
    return (.ok (), (found.find? fun other => other.name == i.name).getD i, r)

/-! ## Description -/

def optionText {α : Type} (text : α → String) : Option α → String
  | none => "None"
  | some a => "Some(" ++ text a ++ ")"

/-- An interface on one line, for developers. -/
def summary (i : Interface) : String :=
  let fields := [
    ("name", Text.quoted i.name),
    ("bytes_received", optionText toString i.bytesReceived),
    ("packets_received", optionText toString i.packetsReceived),
    ("errors_receiving", optionText toString i.errorsReceiving),
    ("bytes_sent", optionText toString i.bytesSent),
    ("packets_sent", optionText toString i.packetsSent),
    ("errors_sending", optionText toString i.errorsSending),
    ("collisions", optionText toString i.collisions),
    ("ip_address", optionText Ipv4.text i.address),
    ("netmask", optionText Ipv4.text i.netmask),
    ("broadcast_address", optionText Ipv4.text i.broadcast),
    ("up", optionText toString i.up),
    ("running", optionText toString i.running)]
  "NetworkInterfaceInstance \x7b info: NetworkInterfaceInfo \x7b "
    ++ ", ".intercalate (fields.map fun (name, value) => name ++ ": " ++ value)
    ++ " \x7d, .. \x7d"

end Interface

end SystemMetrics
