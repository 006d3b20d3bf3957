import ClosedLoop.Text.Decimal

/-!
# Arguments

The command line has two levels: options, then the name of a command, then options of that command.
An option that takes a value has it as the next argument, or in the same one behind `=`; the next
argument is no value if it begins with a dash and has more. No option may stand twice on one level.
The one for the configuration may stand on both, and the second level counts.

Arguments are read from the left, and the first wrong one decides; the options for the version and
for help end the reading. Help is also a command, behind which only the name of one may stand.
-/

namespace ClosedLoop.CommandLine

open Text

/-- What the options of one level say. -/
structure Settings where
  config : Option String := none
  json : Bool := false
  intervalSecs : Option UInt64 := none
  maxIterations : Option UInt64 := none
  deriving DecidableEq, Repr

/-- Why a command line cannot be used. -/
inductive UsageError where
  | unexpected (argument : String)
  | missingValue (option : String)
  | needlessValue (option : String)
  | badValue (option value : String)
  | repeated (option : String)
  | missingCommand
  deriving DecidableEq, Repr

def UsageError.message : UsageError → String
  | unexpected argument => "unexpected argument " ++ argument
  | missingValue option => "a value is required for --" ++ option
  | needlessValue option => "no value is allowed for --" ++ option
  | badValue option value => "invalid value " ++ value ++ " for --" ++ option
  | repeated option => "--" ++ option ++ " cannot be used multiple times"
  | missingCommand => "a command is required"

/-- What an option does where it stands. -/
inductive SwitchKind where
  | mark (put : Settings → Settings)
  /-- Takes a value, which it may refuse. -/
  | take (put? : String → Settings → Option Settings)
  | version
  | help

/-- An option by its name, and by its letter if it has one. -/
structure Switch where
  name : String
  letter : Option Char := none
  isGiven : Settings → Bool
  kind : SwitchKind

/-- Reads a number of 64 bits; one plus sign may stand before it. -/
def word64? (value : String) : Option UInt64 :=
  let digits :=
    match value.toList with
    | '+' :: rest => rest
    | cs => cs
  match Decimal.read? 10 digits with
  | some n => if n < UInt64.size then some n.toUInt64 else none
  | none => none

namespace Switch

def version : Switch := ⟨"version", some 'V', fun _ => false, .version⟩

def help : Switch := ⟨"help", some 'h', fun _ => false, .help⟩

def config : Switch where
  name := "config"
  isGiven s := s.config.isSome
  kind := .take fun value s => if value.isEmpty then none else some { s with config := some value }

def json : Switch where
  name := "json"
  isGiven s := s.json
  kind := .mark fun s => { s with json := true }

def intervalSecs : Switch where
  name := "interval-secs"
  isGiven s := s.intervalSecs.isSome
  kind := .take fun value s => (word64? value).map fun n => { s with intervalSecs := some n }

def maxIterations : Switch where
  name := "max-iterations"
  isGiven s := s.maxIterations.isSome
  kind := .take fun value s => (word64? value).map fun n => { s with maxIterations := some n }

end Switch

/-- What one level of the command line comes to. -/
inductive LevelResult where
  /-- The options are read; what is left begins with a command. -/
  | done (settings : Settings) (rest : List String)
  | version
  | help
  | wrong (error : UsageError)

/-- A value for an option that stands alone: not one that looks like an option. -/
def isValue (argument : String) : Bool :=
  !(argument.startsWith "-") || argument == "-"

/-- Reads the arguments of one level up to a command or the end. -/
def readLevel (switches : List Switch) (isCommand : String → Bool) :
    Settings → List String → LevelResult
  | s, [] => .done s []
  | s, argument :: rest =>
    if isCommand argument then .done s (argument :: rest)
    else if argument == "--" then
      match rest with
      | [] => .done s []
      | extra :: _ => .wrong (.unexpected extra)
    else
      match argument.toList with
      | '-' :: '-' :: cs =>
        let name := String.ofList (cs.takeWhile (· != '='))
        let attached := (cs.dropWhile (· != '=')).tail?
        match switches.find? (·.name == name) with
        | none => .wrong (.unexpected argument)
        | some switch =>
          match switch.kind, attached with
          | .mark _, some _ | .version, some _ | .help, some _ => .wrong (.needlessValue name)
          | .version, none => .version
          | .help, none => .help
          | .mark put, none =>
            if switch.isGiven s then .wrong (.repeated name)
            else readLevel switches isCommand (put s) rest
          | .take put?, some value =>
            if switch.isGiven s then .wrong (.repeated name)
            else
              match put? (String.ofList value) s with
              | some s => readLevel switches isCommand s rest
              | none => .wrong (.badValue name (String.ofList value))
          | .take put?, none =>
            match rest with
            | [] => .wrong (.missingValue name)
            | value :: rest =>
              if !isValue value then .wrong (.missingValue name)
              else if switch.isGiven s then .wrong (.repeated name)
              else
                match put? value s with
                | some s => readLevel switches isCommand s rest
                | none => .wrong (.badValue name value)
      | '-' :: letter :: _ =>
        match (switches.find? (·.letter == some letter)).map Switch.kind with
        | some .version => .version
        | some .help => .help
        | _ => .wrong (.unexpected argument)
      | _ => .wrong (.unexpected argument)

/-- A command with its own options. -/
inductive Command where
  | check (json : Bool)
  | run (intervalSecs maxIterations : Option UInt64)
  deriving DecidableEq, Repr

/-- The name of a command. -/
inductive CommandName where
  | check
  | run
  | help
  deriving DecidableEq, Repr

def CommandName.ofText? : String → Option CommandName
  | "check" => some .check
  | "run" => some .run
  | "help" => some .help
  | _ => none

/-- What a command line asks for. -/
inductive Request where
  | version
  /-- Help on a command, or on the whole program. -/
  | help (topic : Option CommandName)
  | command (configPath : Option String) (command : Command)
  deriving DecidableEq, Repr

namespace Request

/-- Reads the options of a command behind those of the first level. -/
def ofCommand (name : CommandName) (first : Settings) (switches : List Switch)
    (make : Settings → Command) (arguments : List String) : Except UsageError Request :=
  match readLevel (Switch.config :: Switch.help :: switches) (fun _ => false) {} arguments with
  | .done second _ => .ok (.command (second.config.or first.config) (make second))
  | .version => .ok .version
  | .help => .ok (.help (some name))
  | .wrong error => .error error

/-- Reads what stands behind the command for help. -/
def ofHelp : List String → Except UsageError Request
  | [] => .ok (.help none)
  | text :: rest =>
    match CommandName.ofText? text, rest with
    | some name, [] => .ok (.help (some name))
    | some _, extra :: _ => .error (.unexpected extra)
    | none, _ => .error (.unexpected text)

/-- Reads a command line. -/
def ofArguments (arguments : List String) : Except UsageError Request :=
  match readLevel [.config, .help, .version] (fun text => (CommandName.ofText? text).isSome) {}
      arguments with
  | .version => .ok .version
  | .help => .ok (.help none)
  | .wrong error => .error error
  | .done _ [] => .error .missingCommand
  | .done first (text :: rest) =>
    match CommandName.ofText? text with
    | some .check => ofCommand .check first [.json] (fun s => .check s.json) rest
    | some .run =>
      ofCommand .run first [.intervalSecs, .maxIterations]
        (fun s => .run s.intervalSecs s.maxIterations) rest
    | some .help => ofHelp rest
    | none => .error (.unexpected text)

end Request

end ClosedLoop.CommandLine
