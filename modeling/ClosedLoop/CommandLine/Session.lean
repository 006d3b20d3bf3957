import ClosedLoop.CommandLine.Help
import ClosedLoop.Config.Loading
import ClosedLoop.Config.Rendering
import ClosedLoop.Pipeline
import ClosedLoop.Report.Filter

/-!
# Sessions

A session is one call of the program. It loads the configuration, and then either shows it or runs
the loop that it describes; nothing is printed before all that can fail has been done. The log goes
to the stream for errors.

Nobody sends the loop of a session a message. That an interrupt from the terminal is logged and asks
the loop to shut down is left out.
-/

namespace ClosedLoop.CommandLine

open Text

/-- What a session leaves behind. -/
structure Output where
  code : Nat
  out : String := ""
  err : String := ""
  deriving DecidableEq, Repr

/-- The name and version of the program. -/
def versionText : String := "netloop 0.1.0"

/-- Where the configuration is looked for if no path is given. -/
def defaultPath : String := "./" ++ Config.fileName

/-- A configuration for those who have none. -/
def exampleConfig : String :=
  "device:\n  hostname: router1\n  platform: ios-xr\n" ++
  "intent:\n  service: gnmi\n  port: 57400\n  tls: true"

/-- Why a session fails. -/
inductive SessionError where
  | missingConfig (path : String)
  | config (path : String) (error : ConfigError)
  | intent (fault : IntentFault)
  | zeroInterval
  deriving DecidableEq, Repr

def SessionError.message : SessionError → String
  | missingConfig path =>
    "config file " ++ path ++ " not found\n\nCreate it with the following structure:\n" ++ exampleConfig
  | config path error => path ++ ": " ++ error.message
  | intent fault => (EnforcementError.ofIntentFault fault).message
  | zeroInterval => "--interval-secs must be greater than 0"

/-- Loads the configuration of a session. -/
def loadConfig (files : FileReader) (path : String) : Except SessionError Config :=
  match Config.load files path with
  | .ok config => .ok config
  | .error (.file .notFound) => .error (.missingConfig path)
  | .error error => .error (.config path error)

/-- A configuration in a few lines. -/
def summaryLines (config : Config) : List String :=
  let controller := config.controller
  ["Configuration loaded successfully:",
    "  Device:   " ++ config.device.hostname ++ " (" ++ config.device.platform ++ ")",
    "  Intent:   service=" ++ config.intent.service ++ ", port=" ++
      Decimal.text config.intent.port.toNat ++ ", tls=" ++ boolText config.intent.tls,
    "  Interval: " ++ Decimal.text controller.intervalSecs.toNat ++ "s (apply timeout " ++
      Decimal.text controller.applyTimeoutSecs.toNat ++ "s)"] ++
  if controller.backoff.enabled then
    ["  Backoff:  up to " ++ Decimal.text controller.backoff.maxSecs.toNat ++ "s"]
  else []

/-- The line that ends a run. -/
def closingLine (summary : Summary) : String :=
  "Stopped after " ++ Decimal.text summary.iterations ++ " iteration(s): " ++
    Decimal.text summary.applies ++ " apply(s), " ++
    Decimal.text summary.applyFailures ++ " failed apply(s), " ++
    Decimal.text summary.readFailures ++ " failed read(s)"

/-- Lines, each with its end. -/
def unlines (lines : List String) : String :=
  String.join (lines.map (· ++ "\n"))

/-- The options of a run. -/
def runOptions (config : Config) (intervalSecs maxIterations : Option UInt64) : LoopOptions :=
  (LoopOptions.ofConfig config.controller).override intervalSecs (maxIterations.map (·.toNat))

/-- The loop of a run. -/
def enforcement (config : Config) (intervalSecs maxIterations : Option UInt64) :
    Except SessionError (Timeline SimulatedDevice) :=
  match Timeline.ofConfig config (runOptions config intervalSecs maxIterations) with
  | .ok timeline => if intervalSecs = some 0 then .error .zeroInterval else .ok timeline
  | .error fault => .error (.intent fault)

/-- What a command comes to before time begins to pass. -/
inductive Start where
  /-- All is said. -/
  | shown (text : String)
  /-- A loop is to run, after an opening. -/
  | enforcing (opening : String) (timeline : Timeline SimulatedDevice)

/-- Carries out a command up to the run of a loop. -/
def start (files : FileReader) (path : String) (command : Command) : Except SessionError Start :=
  match loadConfig files path with
  | .error error => .error error
  | .ok config =>
    match command with
    | .check json =>
      .ok (.shown (if json then unlines [config.toJson.pretty] else unlines (summaryLines config)))
    | .run intervalSecs maxIterations =>
      match enforcement config intervalSecs maxIterations with
      | .ok timeline =>
        .ok (.enforcing
          (unlines (summaryLines config ++ ["", "Starting closed-loop automation..."])) timeline)
      | .error error => .error error

/-- What a failed session leaves behind. -/
def failed (error : SessionError) : Output where
  code := 1
  err := unlines ["Error: " ++ error.message]

/-- What a loop that has ended leaves behind. -/
def ended (filter : Report.LogFilter) (opening : String) (t : Timeline SimulatedDevice) : Output where
  code := 0
  out := opening ++ unlines [closingLine t.loop.summary]
  err := unlines (filter.lines (Report.log "" (t.events.map (·.2))).flatten)

/-- A whole session; `none` if its loop does not end within `fuel` steps. -/
def session? (fuel : Nat) (files : FileReader) (filter : Report.LogFilter)
    (arguments : List String) : Option Output :=
  match Request.ofArguments arguments with
  | .error error => some { code := 2, err := unlines ["error: " ++ error.message] }
  | .ok .version => some { code := 0, out := unlines [versionText] }
  | .ok (.help topic) => some { code := 0, out := unlines (helpLines topic) }
  | .ok (.command path command) =>
    match start files (path.getD defaultPath) command with
    | .error error => some (failed error)
    | .ok (.shown text) => some { code := 0, out := text }
    | .ok (.enforcing opening timeline) =>
      (timeline.run? (fun _ => false) fuel []).map (ended filter opening)

end ClosedLoop.CommandLine
