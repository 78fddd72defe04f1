import RunEngine.CommandLine.Execution
import RunEngine.CommandLine.Reader
import Std.Time.DateTime.Timestamp

/-!
# The program

Reads the command line, the settings file and the environment, carries out the command and prints
what came of it. There is no transport: every API counts as one that cannot be reached.
-/

namespace RunEngine.Main

/-- How many rounds a loop of a run may take. -/
def limit : Nat := 1000000000000

def readSettingsFile (path : String) : IO SettingsFile := do
  try
    return .text (← IO.FS.readFile path)
  catch
    | .noFileOrDirectory .. => return .missing
    | _ => return .unreadable

/-- The environment variables that settings are taken from. -/
def readEnvironment : IO (String → Option String) := do
  let values ← ["FLOWRUN_API_URL", "FLOWRUN_API_KEY"].mapM fun name =>
    return (name, ← IO.getEnv name)
  return fun name => (values.lookup name).join

def currentTime : IO Timestamp := do
  let elapsed := (← Std.Time.Timestamp.now).toNanosecondsSinceUnixEpoch.val
  return ⟨elapsed / 1000000000, (elapsed % 1000000000).toNat⟩

/-- Print what came of a command. -/
def print (report : CommandLine.Report) (logs : LogLevel → Bool) (time : Timestamp) : IO Unit := do
  for line in report.logs do
    if logs line.level then
      IO.println (time.toText ++ " " ++ line.level.text ++ " " ++ line.message)
  for text in report.printed do
    IO.println text
  if let some error := report.error then
    IO.eprintln ("Error: " ++ error)

end RunEngine.Main

open RunEngine Main in
def main (arguments : List String) : IO UInt32 := do
  match CommandLine.read arguments with
  | .error refusal =>
    if refusal.isRequested then IO.println refusal.text else IO.eprintln refusal.text
    return refusal.status
  | .ok invocation =>
    let file ← readSettingsFile (invocation.config.getD Settings.fileName)
    match Settings.load file (← readEnvironment) with
    | .error error =>
      IO.eprintln ("Error: failed to load settings: " ++ error.text)
      return 1
    | .ok settings =>
      let now ← currentTime
      match invocation.command.run limit settings .nobody { now } with
      | none =>
        IO.eprintln "Error: the run does not come to an end"
        return 1
      | some report =>
        print report (settings.logs invocation.verbose) now
        return report.status
