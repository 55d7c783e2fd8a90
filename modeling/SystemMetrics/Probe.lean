import SystemMetrics.Event
import SystemMetrics.Ipv4
import SystemMetrics.Observing
import SystemMetrics.Timestamp

/-!
# Probes

A probe is everything that the families of metrics ask the system for. Nothing is assumed about its
answers: they may change between two questions, and each may fail.
-/

namespace SystemMetrics

structure Probe (m : Type → Type) where
  /-- The text of `stat`. -/
  systemStat : m (Except Fault String)
  /-- The text of `cpuinfo`. -/
  cpuInfo : m (Except Fault String)
  /-- The text of `meminfo`. -/
  memInfo : m (Except Fault String)
  /-- The text of `vmstat`. -/
  vmStat : m (Except Fault String)
  /-- The text of `net/dev`. -/
  netDev : m (Except Fault String)
  /-- The number of logical processors online. -/
  processorsOnline : m (Except Fault Nat)
  /-- The processes listed under the proc root, in ascending order. -/
  listPids : m (Except Fault (List Nat))
  /-- A file of a process as text. -/
  processFile : (pid : Nat) → (name : String) → m (Except ReadError String)
  /-- A file of a process as bytes. -/
  processBytes : (pid : Nat) → (name : String) → m (Except ReadError (List UInt8))
  /-- Owner and group of a process. -/
  processOwner : (pid : Nat) → m (Except ReadError (Nat × Nat))
  /-- The file that a process executes. -/
  processExecutable : (pid : Nat) → m (Except ReadError String)
  /-- The time of boot, in seconds since 1970. -/
  bootTime : m (Except Fault Nat)
  /-- Clock ticks per second. -/
  clockTicks : m Nat
  /-- The size of a page in bytes. -/
  pageSize : m Nat
  /-- Sends a signal; false if the process does not exist. -/
  sendSignal : (pid : Nat) → (signal : Int) → m (Except Fault Bool)
  interfaceAttributes : (name : String) → m InterfaceAttributes
  wallClock : m Timestamp
  /-- The monotonic clock, in nanoseconds. -/
  monotonicClock : m Nat
  log : Event → m Unit

end SystemMetrics
