import SystemMetrics.Simulation.World

/-!
# Example systems

Texts of proc files, and a typical system with four processors, three processes (one of them a
zombie) and four interfaces (one of them down).
-/

namespace SystemMetrics

namespace Fixtures

/-- A `stat` line with the given state and counters. -/
def statLine (pid : Nat) (comm : String) (state : Char) (userTicks systemTicks startTicks : Nat) :
    String :=
  toString pid ++ " (" ++ comm ++ ") " ++ String.ofList [state] ++ " 1 " ++ toString pid ++ " "
    ++ toString pid ++ " 34816 -1 4194304 500 0 3 0 " ++ toString userTicks ++ " "
    ++ toString systemTicks ++ " 7 2 20 0 1 0 " ++ toString startTicks
    ++ " 12345678 300 18446744073709551615 0 0 0 0 0 0 0 0 0 0 0 0 17 0 0 0 0 0 0 0 0 0 0 0 0 0 0"

/-- An `io` text with the given numbers of calls. -/
def ioContent (readCalls writeCalls : Nat) : String :=
  "rchar: 1000\nwchar: 500\nsyscr: " ++ toString readCalls ++ "\nsyscw: " ++ toString writeCalls
    ++ "\nread_bytes: 4096\nwrite_bytes: 2048\ncancelled_write_bytes: 0\n"

/-- Lines, each with a line feed. -/
def linesOf (lines : List String) : String := String.join (lines.map (· ++ "\n"))

def meminfo : String := linesOf
  ["MemTotal:       16384000 kB",
   "MemFree:         8192000 kB",
   "MemAvailable:   12000000 kB",
   "Buffers:          512000 kB",
   "Cached:          2048000 kB",
   "SwapCached:            0 kB",
   "SwapTotal:       4096000 kB",
   "SwapFree:        3072000 kB"]

def stat : String := linesOf
  ["cpu  10000 500 3000 80000 1000 200 100 0 0 0",
   "cpu0 2500 125 750 20000 250 50 25 0 0 0",
   "cpu1 2500 125 750 20000 250 50 25 0 0 0",
   "cpu2 2500 125 750 20000 250 50 25 0 0 0",
   "cpu3 2500 125 750 20000 250 50 25 0 0 0",
   "intr 1000000 50 0 0 0 0 0 0 0 1 0 0 0 100 0 0 1000",
   "ctxt 500000",
   "btime 1700000000",
   "processes 10000",
   "procs_running 2",
   "procs_blocked 0"]

def cpuinfo : String := linesOf
  ["processor\t: 0", "physical id\t: 0", "core id\t\t: 0", "",
   "processor\t: 1", "physical id\t: 0", "core id\t\t: 1", "",
   "processor\t: 2", "physical id\t: 1", "core id\t\t: 0", "",
   "processor\t: 3", "physical id\t: 1", "core id\t\t: 1"]

def vmstat : String := linesOf
  ["nr_free_pages 2048000", "pgpgin 123456", "pgpgout 654321", "pswpin 100", "pswpout 200"]

def netDev : String := linesOf
  ["Inter-|   Receive                                                |  Transmit",
   " face |bytes    packets errs drop fifo frame compressed multicast"
     ++ "|bytes    packets errs drop fifo colls carrier compressed",
   "    lo: 1234567     1234    0    0    0     0          0         0"
     ++ "  1234567     1234    0    0    0     0       0          0",
   "  eth0: 9876543     5678    1    2    0     0          0        10"
     ++ " 87654321     4321    3    4    0     5       0          0",
   "  eth1:  555000      500    0    0    0     0          0         0"
     ++ "   444000      400    0    0    0     0       0          0",
   " dummy0:      0        0    0    0    0     0          0         0"
     ++ "        0        0    0    0    0     0       0          0"]

/-- The file tree of the typical system. -/
def typicalTree : MemoryTree :=
  let file (path text : String) (t : MemoryTree) := t.addFile (.ofText path) text
  let link (path target : String) (t : MemoryTree) := t.addLink (.ofText path) (.ofText target)
  let own (path : String) (uid gid : Nat) (t : MemoryTree) := t.setOwner (.ofText path) (uid, gid)
  let t : MemoryTree := {}
  let t := file "/proc/meminfo" meminfo t
  let t := file "/proc/stat" stat t
  let t := file "/proc/cpuinfo" cpuinfo t
  let t := file "/proc/vmstat" vmstat t
  let t := file "/proc/net/dev" netDev t
  let t := t.addProcess 1 (statLine 1 "systemd" 'S' 500 300 1)
    "42000 2300 1500 300 0 3000 0\n" (ioContent 9000 4000) "/sbin/init\x00splash\x00"
  let t := link "/proc/1/exe" "/usr/lib/systemd/systemd" t
  let t := file "/proc/1/wchan" "ep_poll" t
  let t := t.addProcess 1234 (statLine 1234 "bash" 'S' 10 5 12345)
    "5000 800 400 200 0 600 0\n" (ioContent 100 50) "/bin/bash\x00--login\x00"
  let t := own "/proc/1234/stat" 1000 1000 t
  let t := link "/proc/1234/exe" "/usr/bin/bash" t
  let t := file "/proc/1234/wchan" "do_wait" t
  let t := t.addProcess 2000 (statLine 2000 "worker" 'Z' 40 20 20000) "0 0 0 0 0 0 0\n" "" ""
  own "/proc/2000/stat" 1000 1000 t

/-- The interfaces of the typical system. -/
def typicalInterfaces : List (String × InterfaceAttributes) :=
  [("lo",
     { address := some ⟨127, 0, 0, 1⟩, netmask := some ⟨255, 0, 0, 0⟩
       up := some true, running := some true }),
   ("eth0",
     { address := some ⟨192, 168, 1, 10⟩, netmask := some ⟨255, 255, 255, 0⟩
       broadcast := some ⟨192, 168, 1, 255⟩, up := some true, running := some true }),
   ("eth1",
     { address := some ⟨10, 0, 0, 5⟩, netmask := some ⟨255, 0, 0, 0⟩
       broadcast := some ⟨10, 255, 255, 255⟩, up := some true, running := some true }),
   ("dummy0", { up := some false, running := some false })]

end Fixtures

/-- The typical system. -/
def World.typical : World :=
  { storage := .memory Fixtures.typicalTree, interfaces := Fixtures.typicalInterfaces }

end SystemMetrics
