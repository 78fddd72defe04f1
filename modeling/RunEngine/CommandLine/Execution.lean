import RunEngine.Demo
import RunEngine.Run
import RunEngine.Settings
import RunEngine.Wire.Encoding

/-!
# Carrying out commands

What a command prints and how it ends. A run of the demo flow ends well whenever it has a final
state, even a failed one; the state is then printed with a mark that tells whether it is COMPLETED.
-/

namespace RunEngine.CommandLine

/-- What came of a command. -/
structure Report where
  /-- What was printed, a line or several at a time. -/
  printed : List String
  /-- Why the command failed, if it did. -/
  error : Option String := none
  /-- The client as the command left it. -/
  client : Client
  logs : List LogRecord := []

/-- The status that the program exits with. -/
def Report.status (r : Report) : UInt32 := if r.error.isSome then 1 else 0

/-! ## Checking -/

/-- See whether the API can be reached. -/
def check (settings : Settings) (peer : Http.Peer) : Report :=
  match (settings.client peer).connect with
  | (.error error, client) => { printed := [], error := some error.text, client }
  | (.ok (), client) =>
    let line := match settings.apiUrl with
      | some url => "orchestration API at " ++ url ++ " is reachable"
      | none => "no api_url configured, runs use an ephemeral in-memory orchestrator"
    { printed := [line], client := client.close }

/-! ## The demo -/

/-- The client that the demo flow is run with. Only an orchestrator in memory can be told to hold
runs back. -/
def demoClient (options : DemoOptions) (settings : Settings) (peer : Http.Peer) : Client :=
  match settings.apiUrl with
  | some _ => settings.client peer
  | none => .inMemory { orchestrator := { hold := options.hold.toNat } }

def demoRequest (options : DemoOptions) (settings : Settings) (client : Client) : RunRequest :=
  { parameters := .ofList options.parameters
    options := { settings.runOptions with client := some client, returnType := .state }
    entry := if options.blocking then .block else .await }

/-- A line that is marked as bad news. -/
def crossed (text : String) : String := "  ✗ " ++ text

/-- What is printed for a final state. -/
def stateLines (state : State) : List String :=
  [if state.type = .completed then "  ✓ " ++ state.text else crossed state.text, "",
    "─── Final State ───", state.toJson.indented]

/-- Run the demo flow. -/
def demo (limit : Nat) (options : DemoOptions) (settings : Settings) (peer : Http.Peer)
    (w : World) : Option Report :=
  let client := demoClient options settings peer
  let body := (Demo.body options).invoke limit
  let w := { w with onRuntime := !options.blocking }
  match w.runFlow limit body (Demo.flow options) (demoRequest options settings client) with
  | none => none
  | some (reply, w) =>
    let report : Report :=
      { printed := w.journal.printed, client := reply.client, logs := w.journal.logs }
    match reply.outcome with
    | .ok output =>
      match output.state? with
      | some state => some { report with printed := report.printed ++ stateLines state }
      | none =>
        some { report with
          printed := report.printed ++ [crossed "run returned no state"]
          error := some "unexpected run output" }
    | .error error =>
      some { report with
        printed := report.printed ++ [crossed error.text], error := some error.text }

/-! ## Commands -/

/-- Carry out a command. -/
def Command.run (limit : Nat) (settings : Settings) (peer : Http.Peer) (w : World) :
    Command → Option Report
  | .demo options => CommandLine.demo limit options settings peer w
  | .check => some (CommandLine.check settings peer)

end RunEngine.CommandLine
