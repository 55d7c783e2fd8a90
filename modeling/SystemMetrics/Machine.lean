import SystemMetrics.Probe
import SystemMetrics.Proc.CpuRow
import SystemMetrics.Tree.Path

/-!
# Machines

A machine is the operating system as far as it is used: its file system, its settings, its network
interfaces, its signals and its clocks. A machine and the root of its proc tree make a probe.
-/

namespace SystemMetrics

structure Machine (m : Type → Type) where
  readText : Path → m (Except ReadError String)
  readBytes : Path → m (Except ReadError (List UInt8))
  /-- The paths right below a directory, in any order. -/
  listDirectory : Path → m (Except ReadError (List Path))
  /-- The target of a symbolic link. -/
  readLink : Path → m (Except ReadError String)
  /-- Owner and group of a path. -/
  owner : Path → m (Except ReadError (Nat × Nat))
  /-- The value of a setting, if the system knows it. -/
  setting : Setting → m (Option Int)
  /-- The error number of the last call that failed. -/
  lastErrno : m Int
  interfaceAttributes : String → m InterfaceAttributes
  /-- Sends a signal and gives the error number, zero for success. -/
  kill : (pid : Nat) → (signal : Int) → m Int
  wallClock : m Timestamp
  monotonicClock : m Nat
  log : Event → m Unit

namespace Machine

variable {m : Type → Type} [Monad m]

/-- Clock ticks per second where the system does not tell. -/
def defaultClockTicks : Nat := 100

/-- The size of a page where the system does not tell. -/
def defaultPageSize : Nat := 4096

/-- The largest process number that a signal can be sent to. -/
def maxSignalPid : Nat := 0x7FFFFFFF

/-- A text below the proc root. -/
def readBelow (machine : Machine m) (root : Path) (name : String) : m (Except Fault String) := do
  let path := root.join name
  match ← machine.readText path with
  | .ok text => return .ok text
  | .error e => return .error (.unreadable path.text e)

def processPath (root : Path) (pid : Nat) (name : String) : Path :=
  (root.join (toString pid)).join name

/-- A positive setting; where there is none, the fallback, with a warning. -/
def settingOr (machine : Machine m) (key : Setting) (fallback : Nat) : m Nat := do
  match ← machine.setting key with
  | some value =>
    if value > 0 then return value.toNat
    else
      machine.log (.settingFallback key fallback)
      return fallback
  | none =>
    machine.log (.settingFallback key fallback)
    return fallback

def processorsOnline (machine : Machine m) : m (Except Fault Nat) := do
  match ← machine.setting .processorsOnline with
  | some value =>
    if value ≥ 0 then return .ok value.toNat
    else return .error (.osCall "sysconf(_SC_NPROCESSORS_ONLN)" (← machine.lastErrno))
  | none => return .error (.osCall "sysconf(_SC_NPROCESSORS_ONLN)" (← machine.lastErrno))

/-- The process that a directory entry stands for. -/
def pidOfEntry? (entry : Path) : Option Nat :=
  entry.fileName?.bind fun name => Text.natural? Text.word32 name.toList

def listPids (machine : Machine m) (root : Path) : m (Except Fault (List Nat)) := do
  match ← machine.listDirectory root with
  | .ok entries => return .ok ((entries.filterMap pidOfEntry?).mergeSort)
  | .error e => return .error (.unreadable root.text e)

def bootTime (machine : Machine m) (root : Path) : m (Except Fault Nat) := do
  match ← machine.readBelow root "stat" with
  | .error fault => return .error fault
  | .ok content => match Proc.bootTime? content with
    | some seconds => return .ok seconds
    | none => return .error (.internal "boot_time" "btime missing in /proc/stat")

def sendSignal (machine : Machine m) (pid : Nat) (signal : Int) : m (Except Fault Bool) := do
  if pid > maxSignalPid then return .ok false
  else
    let errno ← machine.kill pid signal
    if errno = 0 then return .ok true
    else if errno = Errno.noProcess then return .ok false
    else if errno = Errno.permission then
      return .error (.accessViolation ("not permitted to signal pid " ++ toString pid))
    else return .error (.osCall "kill" errno)

/-- The probe that reads below the proc root `procPath` of a machine. -/
def probe (machine : Machine m) (procPath : String) : Probe m :=
  let root := Path.ofText procPath
  { systemStat := machine.readBelow root "stat"
    cpuInfo := machine.readBelow root "cpuinfo"
    memInfo := machine.readBelow root "meminfo"
    vmStat := machine.readBelow root "vmstat"
    netDev := machine.readBelow root "net/dev"
    processorsOnline := machine.processorsOnline
    listPids := machine.listPids root
    processFile := fun pid name => machine.readText (processPath root pid name)
    processBytes := fun pid name => machine.readBytes (processPath root pid name)
    processOwner := fun pid => machine.owner (processPath root pid "stat")
    processExecutable := fun pid => machine.readLink (processPath root pid "exe")
    bootTime := machine.bootTime root
    clockTicks := machine.settingOr .clockTicks defaultClockTicks
    pageSize := machine.settingOr .pageSize defaultPageSize
    sendSignal := machine.sendSignal
    interfaceAttributes := machine.interfaceAttributes
    wallClock := machine.wallClock
    monotonicClock := machine.monotonicClock
    log := machine.log }

end Machine

end SystemMetrics
