import RunEngine.Client.Basic
import RunEngine.Scope

/-!
# Flow bodies

A body is a `Program`: it performs actions one after the other, starts nested runs, and ends with a
value or an error. Each step gets the reply to the one before, so a body may depend on everything it
is told. What it cannot see is how its caller waits for it.
-/

namespace RunEngine

/-! ## Requests to run a flow -/

/-- What a caller gets back for a run. -/
inductive ReturnType where
  /-- The final state. -/
  | state
  /-- What the final state resolves to. -/
  | result
  deriving DecidableEq, Inhabited

/-- What came of a run. -/
inductive RunOutput where
  | state (state : State)
  | value (value : Option Json)
  /-- The error of a failed run, when failures are not raised. -/
  | error (payload : ErrorPayload)
  deriving DecidableEq

namespace RunOutput

def state? : RunOutput → Option State
  | state s => some s
  | _ => none

def value? : RunOutput → Option Json
  | value v => v
  | _ => none

/-- The data a state resolved to, as an output. -/
def ofData : Option StateData → RunOutput
  | none => value none
  | some (.result v) => value (some v)
  | some (.error payload) => error payload

end RunOutput

/-- How a run is to be driven. -/
structure RunOptions where
  /-- The client to use, instead of that of the enclosing run or of the settings. -/
  client : Option Client := none
  /-- A record to drive, instead of creating one. -/
  flowRun : Option FlowRun := none
  returnType : ReturnType := .result
  raiseOnFailure : Bool := true
  /-- How many milliseconds to wait before a pending run is proposed again. -/
  backoff : Nat := 1000

/-- How a caller enters a run. -/
inductive Entry where
  /-- Wait on the runtime the caller is on. -/
  | await
  /-- Block the calling thread. -/
  | block
  deriving DecidableEq, Inhabited

/-- A request to run a flow. -/
structure RunRequest where
  parameters : Parameters := ∅
  options : RunOptions := {}
  entry : Entry := .await

/-- The reply to such a request, with the client as the run left it. -/
structure RunReply where
  outcome : Except EngineError RunOutput
  client : Client

/-! ## Actions -/

inductive LogLevel where
  | debug
  | info
  | warn
  | error
  deriving DecidableEq, Inhabited

def LogLevel.text : LogLevel → String
  | debug => "DEBUG"
  | info => "INFO"
  | warn => "WARN"
  | error => "ERROR"

def LogLevel.severity : LogLevel → Nat
  | debug => 0
  | info => 1
  | warn => 2
  | error => 3

/-- A step that a body can take. -/
inductive Action where
  /-- Write to the log of the run. -/
  | log (level : LogLevel) (message : String)
  /-- Print a line, or log it where the flow asks for that. -/
  | print (message : String)
  /-- Look at the run. -/
  | look
  /-- Put the scopes as they are into the journal. -/
  | snapshot
  /-- Put a value into the journal. -/
  | note (value : Json)
  | dynamicKey (taskKey : String)
  /-- Leave a task in the background, which may leave tasks of its own there. -/
  | spawn (name : String) (delay : Nat) (panics : Bool) (spawns : List TaskPlan := [])
  /-- Let so many milliseconds pass. -/
  | sleep (duration : Nat)
  /-- Block the thread, which no clock of the runtime sees. -/
  | occupy (duration : Nat)
  /-- Propose a state for the body's own run to the orchestrator. -/
  | propose (state : State)

/-- What a body is told about an action. Those that need a run fail outside of one. -/
def Action.Reply : Action → Type
  | log .. | print _ | snapshot | spawn .. => Except Failure Unit
  | look => Except Failure ScopeView
  | dynamicKey _ => Except Failure String
  | propose _ => Except Failure (Except ClientError Answer)
  | note _ | sleep _ | occupy _ => Unit

/-! ## Programs -/

/-- What the body of a flow does. -/
inductive Program where
  /-- End with a value or an error. -/
  | done (outcome : Except Failure Json)
  | perform (action : Action) (next : action.Reply → Program)
  /-- Run a flow inside this one. Its body is given how often it was invoked before. -/
  | runFlow (flow : Flow) (body : Nat → Parameters → Program) (request : RunRequest)
      (next : RunReply → Program)

/-- The body of a flow: what it does when it has been invoked so many times before, with these
parameters. -/
abbrev Body := Nat → Parameters → Program

namespace Program

instance : Inhabited Program := ⟨.done (.ok .null)⟩

/-- Perform an action whose reply says nothing. -/
def attempt (action : Action) (reply : action.Reply → Except Failure Unit) (next : Program) :
    Program :=
  .perform action fun r =>
    match reply r with
    | .ok () => next
    | .error failure => .done (.error failure)

end Program

end RunEngine
