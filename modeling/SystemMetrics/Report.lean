import SystemMetrics.Cpu.Processors
import SystemMetrics.Decimal.Fixed
import SystemMetrics.Json
import SystemMetrics.Memory
import SystemMetrics.Network.Table
import SystemMetrics.Process.Table

/-!
# Reports

What the daemon reports at one moment: the load of all processors, the memory figures, the busiest
processes and the interfaces. A report is written as JSON or as lines of text.
-/

namespace SystemMetrics

/-- Shares of the aggregate over its whole history, as percentages. -/
structure CpuReport where
  cpus : Nat
  busy : Option Float := none
  user : Option Float := none
  system : Option Float := none
  iowait : Option Float := none

def CpuReport.ofTotal (total : Processor) (cpus : Nat) : CpuReport :=
  let ticks := total.tickDeltas (total.history .total).capacity
  { cpus
    busy := ticks.percentBusy
    user := ticks.percent .user
    system := ticks.percent .system
    iowait := ticks.percent .iowait }

structure MemoryReport where
  snapshot : MemorySnapshot
  pageReads : Float
  pageWrites : Float

/-- One process of a report. -/
structure ProcessRow where
  pid : Nat
  name : String
  state : ExecutionState
  cpuPercent : Float
  usedMemoryKb : Nat
  userMs : Nat
  kernelMs : Nat

def ProcessRow.ofEntry (p : ProcessEntry) : ProcessRow where
  pid := p.pid
  name := p.name
  state := p.state
  cpuPercent := p.cpuPercent
  usedMemoryKb := p.usedMemoryKb
  userMs := p.userMs
  kernelMs := p.kernelMs

/-- The `n` processes with the largest share of processor time, the largest first; equal shares keep
their order. Shares are compared in the total order of floats. -/
def topProcesses (ps : List ProcessEntry) (n : Nat) : List ProcessRow :=
  ((ps.map ProcessRow.ofEntry).mergeSort fun a b =>
    Decimal.totalRank b.cpuPercent ≤ Decimal.totalRank a.cpuPercent).take n

structure Report where
  timestamp : Timestamp
  cpu : CpuReport
  memory : MemoryReport
  processCount : Nat
  topProcesses : List ProcessRow
  interfaces : List Interface

namespace Report

/-! ## Text -/

/-- The summary line. -/
def describe (r : Report) : String :=
  let busy := match r.cpu.busy with
    | some x => Decimal.fixed 1 x ++ "%"
    | none => "n/a"
  let s := r.memory.snapshot
  toString r.cpu.cpus ++ " cpus busy " ++ busy
    ++ ", memory " ++ toString s.used ++ "/" ++ toString s.totalPhysical
    ++ " MB, swap " ++ toString s.usedSwap ++ "/" ++ toString s.totalSwap
    ++ " MB, " ++ toString r.processCount ++ " processes, "
    ++ toString r.interfaces.length ++ " interfaces"

def describeRow (row : ProcessRow) : String :=
  "  pid " ++ toString row.pid ++ " " ++ row.name ++ " cpu=" ++ Decimal.fixed 1 row.cpuPercent
    ++ "% rss=" ++ toString row.usedMemoryKb ++ "kB"

/-- Bytes that are not known are shown as none, an address that is not known as a dash. -/
def describeInterface (i : Interface) : String :=
  "  " ++ i.name ++ " rx=" ++ toString (i.bytesReceived.getD 0)
    ++ " tx=" ++ toString (i.bytesSent.getD 0) ++ " ip=" ++ (i.address.map Ipv4.text).getD "-"

/-- The lines of a report in the log: the summary and one line per process. -/
def lines (r : Report) : List String := r.describe :: r.topProcesses.map describeRow

/-- What is logged for a report: its lines, and in more detail one line per interface. -/
def entries (r : Report) : List Event :=
  r.lines.map .reportLine ++ r.interfaces.map fun i => .reportDetail (describeInterface i)

/-! ## JSON -/

def floatOrNull (x : Option Float) : Json := .ofOption .float x

def cpuJson (c : CpuReport) : Json :=
  .object [("cpus", .nat c.cpus), ("busy_percent", floatOrNull c.busy),
    ("user_percent", floatOrNull c.user), ("system_percent", floatOrNull c.system),
    ("iowait_percent", floatOrNull c.iowait)]

def snapshotMembers (s : MemorySnapshot) : List (String × Json) :=
  [("total_physical", .nat s.totalPhysical), ("available", .nat s.available),
   ("used", .nat s.used), ("total_swap", .nat s.totalSwap),
   ("available_swap", .nat s.availableSwap), ("used_swap", .nat s.usedSwap)]

def memoryJson (r : MemoryReport) : Json :=
  .object (snapshotMembers r.snapshot
    ++ [("page_reads_per_sec", .float r.pageReads), ("page_writes_per_sec", .float r.pageWrites)])

def rowJson (row : ProcessRow) : Json :=
  .object [("pid", .nat row.pid), ("name", .text row.name), ("state", .text row.state.key),
    ("cpu_percent", .float row.cpuPercent), ("used_memory_kb", .nat row.usedMemoryKb),
    ("user_mode_ms", .nat row.userMs), ("kernel_mode_ms", .nat row.kernelMs)]

def interfaceJson (i : Interface) : Json :=
  let count (n : Option Nat) : Json := .ofOption .nat n
  let address (a : Option Ipv4) : Json := .ofOption (fun a => .text a.text) a
  .object [("name", .text i.name), ("bytes_received", count i.bytesReceived),
    ("packets_received", count i.packetsReceived), ("errors_receiving", count i.errorsReceiving),
    ("bytes_sent", count i.bytesSent), ("packets_sent", count i.packetsSent),
    ("errors_sending", count i.errorsSending), ("collisions", count i.collisions),
    ("ip_address", address i.address), ("netmask", address i.netmask),
    ("broadcast_address", address i.broadcast), ("up", .ofOption .bool i.up),
    ("running", .ofOption .bool i.running)]

def toJson (r : Report) : Json :=
  .object [("timestamp", .text r.timestamp.text), ("cpu", cpuJson r.cpu),
    ("memory", memoryJson r.memory), ("process_count", .nat r.processCount),
    ("top_processes", .list (r.topProcesses.map rowJson)),
    ("interfaces", .list (r.interfaces.map interfaceJson))]

end Report

end SystemMetrics
