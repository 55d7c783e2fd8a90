import SystemMetrics.Event
import SystemMetrics.Ipv4

/-!
# A simulated kernel

The answers of a kernel to `sysconf`, to requests about interfaces, and to `kill`.
-/

namespace SystemMetrics

/-- What the requests about one interface answer; a request without an answer fails. -/
structure KernelInterface where
  name : String
  address : Option Ipv4 := none
  netmask : Option Ipv4 := none
  broadcast : Option Ipv4 := none
  flags : Option Nat := none
  /-- The address family of the answers. -/
  family : Nat := 2
  deriving DecidableEq, Repr

structure Kernel where
  /-- The results of `sysconf`; a negative one is a failure. -/
  processorsOnline : Int := 4
  clockTicks : Int := 100
  pageSize : Int := 4096
  interfaces : List KernelInterface := []
  /-- The error number of `socket`, zero if it works. -/
  socketErrno : Int := 0
  /-- The error numbers of `kill` for single processes. -/
  killErrnos : List (Nat × Int) := []
  /-- The signals that reached `kill`, in order. -/
  sent : List (Nat × Int) := []
  deriving Repr, Inhabited

namespace Kernel

def setting (k : Kernel) (key : Setting) : Option Int :=
  let value := match key with
    | .processorsOnline => k.processorsOnline
    | .clockTicks => k.clockTicks
    | .pageSize => k.pageSize
  if value ≥ 0 then some value else none

/-! ## Interfaces -/

/-- The longest name that fits a request, in bytes. -/
def maxNameLength : Nat := 15

/-- The address family of IPv4. -/
def inetFamily : Nat := 2

def flagUp : Nat := 1

def flagRunning : Nat := 0x40

/-- The name that the kernel sees: it ends at the first zero character. -/
def seenName (name : String) : List Char := name.toList.takeWhile (· != '\x00')

/-- The interface that a request about `name` reaches. -/
def interface? (k : Kernel) (name : String) : Option KernelInterface :=
  if name.utf8ByteSize = 0 ∨ name.utf8ByteSize > maxNameLength then none
  else k.interfaces.find? fun i => i.name.toList == seenName name

/-- An address counts only if it is one of IPv4. -/
def inetAddress (i : KernelInterface) (address : Option Ipv4) : Option Ipv4 :=
  if i.family = inetFamily then address else none

/-- Everything that requests on a socket tell about an interface. -/
def attributes (k : Kernel) (name : String) : InterfaceAttributes :=
  if k.socketErrno ≠ 0 then {}
  else match k.interface? name with
    | none => {}
    | some i =>
      { address := inetAddress i i.address
        netmask := inetAddress i i.netmask
        broadcast := inetAddress i i.broadcast
        up := i.flags.map fun f => f / flagUp % 2 == 1
        running := i.flags.map fun f => f / flagRunning % 2 == 1 }

def setInterface (i : KernelInterface) (k : Kernel) : Kernel :=
  { k with interfaces := k.interfaces.filter (·.name != i.name) ++ [i] }

/-! ## Signals -/

/-- The error number of a signal: that of the process, if it has one; the signal group of the caller
takes the signals 0 to 64, and no other process exists. -/
def killErrno (k : Kernel) (pid : Nat) (signal : Int) : Int :=
  match k.killErrnos.lookup pid with
  | some errno => errno
  | none =>
    if pid = 0 then if 0 ≤ signal ∧ signal ≤ 64 then 0 else Errno.invalid
    else Errno.noProcess

def setKillErrno (pid : Nat) (errno : Int) (k : Kernel) : Kernel :=
  { k with killErrnos := (pid, errno) :: k.killErrnos }

/-- Sends a signal. -/
def kill (pid : Nat) (signal : Int) (k : Kernel) : Int × Kernel :=
  (k.killErrno pid signal, { k with sent := k.sent ++ [(pid, signal)] })

end Kernel

end SystemMetrics
