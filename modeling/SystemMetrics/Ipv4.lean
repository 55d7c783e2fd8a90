/-!
# IPv4 addresses
-/

namespace SystemMetrics

structure Ipv4 where
  a : UInt8
  b : UInt8
  c : UInt8
  d : UInt8
  deriving DecidableEq, Repr

namespace Ipv4

def text (ip : Ipv4) : String :=
  ".".intercalate ([ip.a, ip.b, ip.c, ip.d].map fun x => toString x.toNat)

/-- Whether the address lies in `127.0.0.*`. -/
def isLoopback (ip : Ipv4) : Bool := ip.a == 127 && ip.b == 0 && ip.c == 0

end Ipv4

/-- What is known about an interface besides its counters; `none` is unknown. -/
structure InterfaceAttributes where
  address : Option Ipv4 := none
  netmask : Option Ipv4 := none
  broadcast : Option Ipv4 := none
  up : Option Bool := none
  running : Option Bool := none
  deriving DecidableEq, Repr

end SystemMetrics
