import SystemMetrics.Daemon.Command
import SystemMetrics.Machine
import SystemMetrics.Tree.Content

/-!
# The program

The daemon on the machine that it runs on. Files, links and directories are read as they are. What
can only be asked for by system calls is taken from files of `/proc` and `/sys` where they tell, and
is unknown otherwise.
-/

namespace SystemMetrics.Live

/-! ## Reading -/

/-- The cause of a failed read. -/
def readError : IO.Error → ReadError
  | .noFileOrDirectory .. => .os Errno.noEntry
  | .permissionDenied .. => .os Errno.access
  | .inappropriateType _ code _ => .os code.toNat
  | .invalidArgument _ code _ => .os code.toNat
  | .noSuchThing _ code _ => .os code.toNat
  | e => .described .other (toString e)

/-- Runs a read and keeps its failure as a value. -/
def attempt {α : Type} (x : IO α) : IO (Except ReadError α) := do
  try return .ok (← x)
  catch e => return .error (readError e)

def readBytes (path : Path) : IO (Except ReadError (List UInt8)) :=
  attempt do return (← IO.FS.readBinFile path.text).toList

def readText (path : Path) : IO (Except ReadError String) := do
  return (← readBytes path).bind fun bytes => (Content.bytes bytes).asText

/-- A text that counts as empty where it cannot be read. -/
def textOrEmpty (path : String) : IO String := do
  return (← readText (.ofText path)).toOption.getD ""

def listDirectory (path : Path) : IO (Except ReadError (List Path)) :=
  attempt do
    let entries ← (System.mkFilePath [path.text]).readDir
    return entries.toList.map fun entry => path.join entry.fileName

def readLink (path : Path) : IO (Except ReadError String) :=
  attempt do return (← IO.FS.realPath path.text).toString

/-- Every path that is there counts as owned by user and group zero. -/
def owner (path : Path) : IO (Except ReadError (Nat × Nat)) :=
  attempt do
    let _ ← (System.mkFilePath [path.text]).metadata
    return (0, 0)

/-! ## Settings, interfaces and clocks -/

/-- Whether a line of `/proc/stat` belongs to one processor. -/
def isProcessorRow (line : List Char) : Bool :=
  match Proc.CpuRow.parseChars? line with
  | some (.ok (.cpu _, _)) => true
  | _ => false

/-- The processors online are those with a row in `/proc/stat`. -/
def setting : Setting → IO (Option Int)
  | .processorsOnline => do
    let rows := (Text.lines (← textOrEmpty "/proc/stat").toList).filter isProcessorRow
    return some rows.length
  | .clockTicks => return some Machine.defaultClockTicks
  | .pageSize => return some Machine.defaultPageSize

/-- Whether an interface is up and running; its addresses are unknown. -/
def interfaceAttributes (name : String) : IO InterfaceAttributes := do
  let folder := "/sys/class/net/" ++ name
  let state := Text.trim (← textOrEmpty (folder ++ "/operstate")).toList
  if state.isEmpty then return {}
  else
    let up := state != "down".toList
    return { up := some up, running := some (up && state != "dormant".toList) }

/-- The wall clock: the time of boot and the time since then. -/
def wallClock : IO Timestamp := do
  let boot := (Proc.bootTime? (← textOrEmpty "/proc/stat")).getD 0
  let uptime := (Text.words (← textOrEmpty "/proc/uptime").toList).headD []
  let seconds := (Text.natural64? (uptime.takeWhile (· != '.'))).getD 0
  return ⟨(boot + seconds) * 1000⟩

/-- The machine that the program runs on, with a log on the standard output. -/
def machine (level : Level) : Machine IO where
  readText := readText
  readBytes := readBytes
  listDirectory := listDirectory
  readLink := readLink
  owner := owner
  setting := setting
  lastErrno := return 0
  interfaceAttributes := interfaceAttributes
  kill _ _ := return Errno.permission
  wallClock := wallClock
  monotonicClock := IO.monoNanosNow
  log event := if Command.isWritten level event then IO.println event.line else return ()

/-! ## The loop -/

/-- When each family has to sample next, in nanoseconds of the monotonic clock. -/
structure Deadlines where
  cpus : Nat
  memory : Nat
  processes : Nat

/-- Runs the passes that are due. -/
def runDuePasses (probe : Probe IO) (s : Settings) (f : Families) (due : Deadlines) :
    IO (Families × Deadlines) := do
  let now ← IO.monoNanosNow
  let mut f := f
  let mut due := due
  if due.cpus ≤ now then
    f := { f with cpus := ← f.cpus.backgroundPass probe }
    due := { due with cpus := now + s.cpu.interval.nanoseconds }
  if due.memory ≤ now then
    f := { f with memory := ← f.memory.backgroundPass probe }
    due := { due with memory := now + s.memory.interval.nanoseconds }
  if due.processes ≤ now then
    f := { f with processes := ← f.processes.backgroundPass probe }
    due := { due with processes := now + s.process.interval.nanoseconds }
  return (f, due)

/-- Runs the report loop until it has finished, and stops the families then. -/
partial def loop (probe : Probe IO) (o : Options) (l : ReportLoop) (f : Families)
    (due : Deadlines) : IO Unit := do
  match l.next false with
  | (.finish, _) => Command.shutDown probe o f
  | (.sleep ms, l) =>
    IO.sleep ms.toUInt32
    let (f, due) ← runDuePasses probe o.settings f due
    loop probe o l f due
  | (.report, l) =>
    let (printed, f) ← Command.report probe o f
    for r in printed.toList do IO.println r.toJson.render
    loop probe o l f due

/-- Runs the daemon and gives its exit code. -/
def run (o : Options) : IO UInt32 := do
  let probe := (machine (Command.logLevel o)).probe o.procPath
  match ← Command.start probe o with
  | none => return 1
  | some f =>
    let s := o.settings
    let now ← IO.monoNanosNow
    loop probe o (.start o.reportInterval o.once) f
      { cpus := now + s.cpu.interval.nanoseconds
        memory := now + s.memory.interval.nanoseconds
        processes := now + s.process.interval.nanoseconds }
    return 0

end SystemMetrics.Live

/-- Reads the command line and runs the daemon. -/
def main (arguments : List String) : IO UInt32 := do
  match SystemMetrics.Options.parse arguments with
  | .ok o => SystemMetrics.Live.run o
  | .error .version =>
    IO.println SystemMetrics.Event.program
    return 0
  | .error refusal =>
    let usage := "usage: syspald [options], where the options are --proc-path <path>, "
      ++ "--cpu-interval, --memory-interval, --process-interval, -r, --report-interval <seconds>, "
      ++ "--top <count>, --json, --once, -v, --verbose, -q, --quiet, -h, --help, -V, --version"
    if refusal = .help then IO.println usage else IO.eprintln usage
    return refusal.exitCode.toUInt32
