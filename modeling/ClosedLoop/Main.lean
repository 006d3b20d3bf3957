import ClosedLoop.CommandLine.Session

/-!
# The program

Reads a file and a setting of the surroundings, lets time pass, and prints. All that is decided is
decided by the session. An interrupt from the terminal ends the program at once: the shutdown that
it could send to the loop instead is left out.
-/

namespace ClosedLoop.CommandLine

/-- Why the system did not let a file be read; it gives some of its error numbers negated. -/
def fileError : IO.Error → FileError
  | .noFileOrDirectory _ _ _ => .notFound
  | .inappropriateType _ number _ =>
    if number == 20 || number == -20 then .notADirectory else .isADirectory
  | .invalidArgument file number details =>
    if number == 36 || number == -36 then .nameTooLong
    else .other (toString (IO.Error.invalidArgument file number details))
  | .permissionDenied _ _ _ => .other "Permission denied (os error 13)"
  | error => .other (toString error)

/-- Reads a file of the system. -/
def readFile (path : String) : IO (Except FileError ByteArray) := do
  try
    return .ok (← IO.FS.readBinFile path)
  catch error =>
    return .error (fileError error)

/-- Prints the log entries of a step, and keeps the name of the device that they are about. -/
def printLog (filter : Report.LogFilter) (device : String) :
    List (Tick × Event) → IO String
  | [] => return device
  | (_, event) :: rest => do
    let device := Report.deviceAfter device event
    for line in filter.lines (Report.entries device event) do
      IO.eprintln line
    printLog filter device rest

/-- Sleeps until a point in time, in pieces of at most a day. -/
partial def sleepUntil (begin : Nat) (time : Tick) : IO Unit := do
  let now := (← IO.monoMsNow) - begin
  if now < time then
    IO.sleep (min (time - now) 86400000).toUInt32
    sleepUntil begin time

/-- Lets a loop run in real time, and returns it at its end. -/
partial def live (filter : Report.LogFilter) (begin : Nat) (device : String)
    (t : Timeline SimulatedDevice) : IO (Timeline SimulatedDevice) := do
  let device ← printLog filter device t.events
  let t := { t with log := [] }
  match t.next? fun _ => false with
  | some (due, _) =>
    sleepUntil begin due
    match t.step? fun _ => false with
    | some t => live filter begin device t
    | none => return t
  | none => return t

end ClosedLoop.CommandLine

open ClosedLoop ClosedLoop.CommandLine in
def main (arguments : List String) : IO UInt32 := do
  match Request.ofArguments arguments with
  | .error error =>
    IO.eprintln ("error: " ++ error.message)
    return 2
  | .ok .version =>
    IO.println versionText
    return 0
  | .ok (.help topic) =>
    IO.print (unlines (helpLines topic))
    return 0
  | .ok (.command path command) =>
    let filter := Report.LogFilter.ofSetting (← IO.getEnv "RUST_LOG")
    let path := path.getD defaultPath
    let content ← readFile path
    match start (fun _ => content) path command with
    | .error error =>
      IO.eprint (failed error).err
      return 1
    | .ok (.shown text) =>
      IO.print text
      return 0
    | .ok (.enforcing opening timeline) =>
      IO.print opening
      (← IO.getStdout).flush
      let t ← live filter (← IO.monoMsNow) "" (timeline.feed .run)
      IO.println (closingLine t.loop.summary)
      return 0
