import SystemMetrics.Settings
import SystemMetrics.Text.Numeral

/-!
# Command-line options

The options of the daemon and the reading of a command line. Words are read from left to right. An
option with a value may carry it in the same word (`--top=3`, `-r3`, `-r=3`) or take the next word,
unless that looks like an option itself; a value in a word of its own is checked only when the next
option or the end of the line is reached. Short flags may share a word.
-/

namespace SystemMetrics

/-- What the command line decides. -/
structure Options where
  procPath : String := "/proc"
  /-- Sampling intervals in seconds. -/
  cpuInterval : Nat := 10
  memoryInterval : Nat := 60
  processInterval : Nat := 60
  /-- Seconds between two reports. -/
  reportInterval : Nat := 10
  /-- How many processes a report lists. -/
  top : Nat := 5
  json : Bool := false
  once : Bool := false
  /-- How often verbosity was asked for, up to 255. -/
  verbose : Nat := 0
  quiet : Bool := false
  deriving DecidableEq, Repr

namespace Options

/-- The settings of the samplers. -/
def settings (o : Options) : Settings :=
  let defaults : Settings := {}
  { procPath := o.procPath
    cpu := ⟨.ofSeconds o.cpuInterval, defaults.cpu.history⟩
    memory := ⟨.ofSeconds o.memoryInterval, defaults.memory.history⟩
    process := ⟨.ofSeconds o.processInterval, defaults.process.history⟩ }

/-- The options without a value. -/
inductive Flag where
  | json
  | once
  | verbose
  | quiet
  | help
  | version
  deriving DecidableEq, Repr

/-- The options with a value. -/
inductive Valued where
  | procPath
  | cpuInterval
  | memoryInterval
  | processInterval
  | reportInterval
  | top
  deriving DecidableEq, Repr

inductive Switch where
  | flag (f : Flag)
  | valued (v : Valued)
  deriving DecidableEq, Repr

/-- Why a command line is not carried out. Asking for help or the version ends the reading too. -/
inductive Refusal where
  | unknownArgument
  /-- An option with a value has none. -/
  | missingValue
  /-- The value of an option is no number of its range. -/
  | badValue
  /-- A flag carries a value. -/
  | unwantedValue
  /-- An option that may stand once is repeated. -/
  | repeated
  | help
  | version
  deriving DecidableEq, Repr

/-- The exit code after a refusal: only help and version are a success. -/
def Refusal.exitCode : Refusal → Nat
  | .help => 0
  | .version => 0
  | _ => 2

def long? (name : String) : Option Switch :=
  match name with
  | "proc-path" => some (.valued .procPath)
  | "cpu-interval" => some (.valued .cpuInterval)
  | "memory-interval" => some (.valued .memoryInterval)
  | "process-interval" => some (.valued .processInterval)
  | "report-interval" => some (.valued .reportInterval)
  | "top" => some (.valued .top)
  | "json" => some (.flag .json)
  | "once" => some (.flag .once)
  | "verbose" => some (.flag .verbose)
  | "quiet" => some (.flag .quiet)
  | "help" => some (.flag .help)
  | "version" => some (.flag .version)
  | _ => none

def short? (letter : Char) : Option Switch :=
  match letter with
  | 'r' => some (.valued .reportInterval)
  | 'v' => some (.flag .verbose)
  | 'q' => some (.flag .quiet)
  | 'h' => some (.flag .help)
  | 'V' => some (.flag .version)
  | _ => none

/-- How far a command line has been read. -/
structure Reading where
  options : Options := {}
  /-- The options seen that may stand only once. -/
  seen : List Switch := []
  /-- An option whose value, if it is there, has not been checked yet. -/
  pending : Option (Valued × Option String) := none
  /-- Whether the pending option still takes the next word. -/
  awaiting : Bool := false
  deriving Repr

namespace Reading

/-- Notes an option that may stand only once. -/
def once (o : Switch) (r : Reading) : Except Refusal Reading :=
  if r.seen.contains o then .error .repeated else .ok { r with seen := o :: r.seen }

def setValue (v : Valued) (value : String) (o : Options) : Except Refusal Options :=
  let number : Except Refusal Nat := match Text.natural64? value.toList with
    | some n => .ok n
    | none => .error .badValue
  match v with
  | .procPath => .ok { o with procPath := value }
  | .cpuInterval => number.map fun n => { o with cpuInterval := n }
  | .memoryInterval => number.map fun n => { o with memoryInterval := n }
  | .processInterval => number.map fun n => { o with processInterval := n }
  | .reportInterval => number.map fun n => { o with reportInterval := n }
  | .top => number.map fun n => { o with top := n }

/-- Takes an option with its value. -/
def assign (v : Valued) (value : String) (r : Reading) : Except Refusal Reading := do
  let r ← r.once (.valued v)
  return { r with options := ← setValue v value r.options }

/-- Checks the pending option. -/
def finish (r : Reading) : Except Refusal Reading :=
  let cleared := { r with pending := none, awaiting := false }
  match r.pending with
  | none => .ok cleared
  | some (_, none) => .error .missingValue
  | some (v, some value) => cleared.assign v value

def flag (f : Flag) (r : Reading) : Except Refusal Reading := do
  let r ← r.finish
  match f with
  | .help => .error .help
  | .version => .error .version
  | .verbose =>
    let verbose := min (r.options.verbose + 1) 255
    return { r with options := { r.options with verbose } }
  | .json => return { ← r.once (.flag f) with options := { r.options with json := true } }
  | .once => return { ← r.once (.flag f) with options := { r.options with once := true } }
  | .quiet => return { ← r.once (.flag f) with options := { r.options with quiet := true } }

/-- An option with the value in the same word, or waiting for the next word. -/
def valued (v : Valued) (attached : Option String) (r : Reading) : Except Refusal Reading := do
  let r ← r.finish
  match attached with
  | some value => r.assign v value
  | none => return { r with pending := some (v, none), awaiting := true }

/-- A word after `--`, split at its first equals sign. -/
def long (name : String) (attached : Option String) (r : Reading) : Except Refusal Reading :=
  match long? name, attached with
  | none, _ => .error .unknownArgument
  | some (.flag f), none => r.flag f
  | some (.flag _), some _ => .error .unwantedValue
  | some (.valued v), _ => r.valued v attached

/-- The letters of a word after `-`. The rest of the word after an option with a value is that
value, without an equals sign in front. -/
def short : List Char → Reading → Except Refusal Reading
  | [], r => .ok r
  | letter :: rest, r =>
    match short? letter with
    | none => .error .unknownArgument
    | some (.flag f) => do short rest (← r.flag f)
    | some (.valued v) =>
      match rest with
      | [] => r.valued v none
      | '=' :: value => r.valued v (some (String.ofList value))
      | value => r.valued v (some (String.ofList value))

/-- Reads one word. -/
def word (text : String) (r : Reading) : Except Refusal Reading :=
  match text.toList with
  | '-' :: '-' :: name =>
    match name.dropWhile (· != '=') with
    | [] => r.long (String.ofList name) none
    | _ :: value =>
      r.long (String.ofList (name.takeWhile (· != '='))) (some (String.ofList value))
  | '-' :: letter :: rest => r.short (letter :: rest)
  | _ =>
    match r.awaiting, r.pending with
    | true, some (v, none) => .ok { r with pending := some (v, some text), awaiting := false }
    | _, _ => .error .unknownArgument

/-- Reads the words of a line. After `--` no word is an option, and no word is wanted. -/
def words : List String → Reading → Except Refusal Reading
  | [], r => r.finish
  | "--" :: rest, r => if rest.isEmpty then r.finish else .error .unknownArgument
  | text :: rest, r => do words rest (← r.word text)

end Reading

/-- Reads the arguments of the program, without its name. -/
def parse (arguments : List String) : Except Refusal Options :=
  (Reading.words arguments {}).map (·.options)

end Options

end SystemMetrics
