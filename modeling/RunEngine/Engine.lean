import RunEngine.World

/-!
# The engine of a run

An `Engine` takes one run through its states. It connects, creates the record of the run or takes
the one it was given, checks the parameters, and from then on proposes states and takes over what
the orchestrator recorded.

Parameters that are not valid end a run before it begins: the run is then short-circuited. It keeps
the state it was given for its failure, nothing more is proposed for it, and its body is not run.

An orchestrator may ask for a proposal to be made again any number of times. The operations that
propose take a bound on that, and give no answer when it is reached.
-/

namespace RunEngine

/-- Whether proposals still reach the orchestrator. -/
inductive Standing where
  | active
  /-- The run was over before it began, in this state. -/
  | shortCircuited (state : State)
  deriving DecidableEq

/-- The engine of one run. -/
structure Engine where
  flow : Flow
  parameters : Parameters := ∅
  /-- The record of the run, once it was created or if it was given. -/
  record : Option FlowRun := none
  mode : ExecutionMode := .cooperative
  /-- Background tasks supplied by the caller. -/
  group : Option TaskGroup := none
  standing : Standing := .active
  connected : Bool := false
  scope : Option Scope := none
  /-- How often the body was invoked. -/
  invocations : Nat := 0

/-- What an operation leaves: its answer, the engine and the world. -/
abbrev Engine.Step (α : Type) := Except EngineError α × Engine × World

namespace Engine

/-! ## Looking at an engine -/

def state? (e : Engine) : Option State := e.record.map (·.state)

def isShortCircuited (e : Engine) : Bool := e.standing != .active

/-- A short-circuited run is not pending, whatever state it has. -/
def isPending (e : Engine) : Bool := !e.isShortCircuited && e.state?.any State.isPending

/-- A short-circuited run is not running, whatever state it has. -/
def isRunning (e : Engine) : Bool := !e.isShortCircuited && e.state?.any State.isRunning

/-- Whether the client may be used. -/
def ready (e : Engine) : Except EngineError Unit :=
  if e.connected then .ok () else .error .notStarted

/-- What the run's state resolves to. -/
def result (e : Engine) (raiseOnFailure : Bool) : Except EngineError (Option StateData) :=
  match e.state? with
  | none => .error .missingFlowRun
  | some state =>
    match state.resolve raiseOnFailure with
    | .ok data => .ok data
    | .error error => .error (.run error)

/-! ## Proposals -/

/-- Propose a state, again after every delay the orchestrator asks for. The answer is the state that
was recorded. -/
def proposeUntilAnswered (id : Uuid) (state : State) :
    (limit : Nat) → World → Option (Except EngineError State × World)
  | 0, _ => none
  | limit + 1, w =>
    match w.propose id state with
    | (.ok (.accept recorded), w) => some (.ok recorded, w)
    | (.ok (.reject recorded _), w) => some (.ok recorded, w)
    | (.ok (.wait delay _), w) =>
      proposeUntilAnswered id state limit (w.sleep (Delay.milliseconds delay))
    | (.ok (.abort reason), w) => some (.error (.aborted reason), w)
    | (.error error, w) => some (.error (.client error), w)

/-- The engine once a state was recorded. -/
def apply (e : Engine) (state : State) : Engine :=
  { e with
    record := e.record.map fun run => { run with state }
    scope := e.scope.map fun scope => { scope with state } }

/-- Propose a state for the run. A short-circuited run keeps the state it has. -/
def setState (limit : Nat) (e : Engine) (w : World) (state : State) : Option (Step State) :=
  match e.standing with
  | .shortCircuited held => some (.ok held, e, w)
  | .active =>
    if !e.connected then some (.error .notStarted, e, w)
    else
      match e.record with
      | none => some (.error .missingFlowRun, e, w)
      | some run =>
        match proposeUntilAnswered run.id state limit w with
        | none => none
        | some (.ok recorded, w) => some (.ok recorded, e.apply recorded, w)
        | some (.error error, w) => some (.error error, e, w)

/-- Propose to run. -/
def beginRun (limit : Nat) (e : Engine) (w : World) : Option (Step State) :=
  e.setState limit w (.running w.now)

/-- Propose that the run completed with a value, and hand the value back. -/
def handleSuccess (limit : Nat) (e : Engine) (w : World) (value : Json) : Option (Step Json) :=
  match e.setState limit w (.completedWith w.now value) with
  | none => none
  | some (.ok _, e, w) => some (.ok value, e, w)
  | some (.error error, e, w) => some (.error error, e, w)

/-- What the state of a failed attempt says first. -/
def failureMessage : String := "Flow run encountered an exception:"

/-- What the state of a run with invalid parameters says first. -/
def validationMessage : String := "Validation of flow parameters failed with error"

/-- Propose that the run failed. -/
def handleException (limit : Nat) (e : Engine) (w : World) (failure : Failure)
    (message : Option String := none) (capture : Option ErrorCapture := none) :
    Option (Step State) :=
  e.setState limit w <|
    (capture.getD e.flow.capture).failedState w.now failure (message.getD failureMessage)

/-! ## Starting -/

/-- Register the run as a task of the enclosing one, if there is one. -/
def link (e : Engine) (w : World) : Except EngineError (Option Uuid) × World :=
  match w.scopes with
  | [] => (.ok none, w)
  | parent :: _ =>
    let (key, parent) := parent.nextDynamicKey e.flow.taskKey
    let request : TaskRunRequest :=
      { flowRun := parent.runId
        name := e.flow.name ++ "-" ++ key
        taskKey := e.flow.taskKey
        dynamicKey := key
        inputs := e.parameters.map fun _ => []
        state := .pending w.now }
    match (w.withScope parent).createTaskRun request with
    | (.ok task, w) => (.ok (some task.id), w)
    | (.error error, w) => (.error (.client error), w)

/-- Create the record of the run. A name that cannot be made out is left out. -/
def create (e : Engine) (w : World) : Except EngineError FlowRun × World :=
  match e.link w with
  | (.error error, w) => (.error error, w)
  | (.ok parentTaskRun, w) =>
    let request : FlowRunRequest :=
      { flowName := e.flow.name
        flowVersion := e.flow.version
        name := (e.flow.resolveRunName e.parameters).toOption.join
        parameters := e.parameters
        state := .pending w.now
        parentTaskRun
        tags := e.flow.tags
        policy := { retries := e.flow.retries } }
    match w.createFlowRun request with
    | (.ok run, w) => (.ok run, w)
    | (.error error, w) => (.error (.client error), w)

/-- The engine with a record, created unless there is one. -/
def ensureRecord (e : Engine) (w : World) : Step FlowRun :=
  match e.record with
  | some run => (.ok run, e, w)
  | none =>
    match e.create w with
    | (.ok run, w) => (.ok run, { e with record := some run }, w)
    | (.error error, w) => (.error error, e, w)

/-- Check the parameters and settle their values. A run with invalid ones is failed and
short-circuited. -/
def checkParameters (limit : Nat) (e : Engine) (w : World) : Option (Step Unit) :=
  if !e.flow.validates then some (.ok (), e, w)
  else
    match e.flow.schema.validate e.parameters with
    | .ok parameters => some (.ok (), { e with parameters }, w)
    | .error invalid =>
      let failure : Failure := { fault := .validation invalid }
      match e.handleException limit w failure validationMessage e.flow.capture with
      | none => none
      | some (.error error, e, w) => some (.error error, e, w)
      | some (.ok state, e, w) => some (.ok (), { e with standing := .shortCircuited state }, w)

/-- The engine with the scope of its run. The caller's background tasks become part of it. -/
def openScope (e : Engine) : Engine :=
  { e with
    group := none
    scope := e.record.map fun run =>
      { flow := e.flow
        runId := run.id
        runName := run.name
        state := run.state
        parameters := e.parameters
        mode := e.mode
        group := e.group.getD {} } }

/-- What starting does once the client is connected. -/
def setup (limit : Nat) (e : Engine) (w : World) : Option (Step Unit) :=
  match e.ensureRecord w with
  | (.error error, e, w) => some (.error error, e, w)
  | (.ok _, e, w) =>
    match e.checkParameters limit w with
    | none => none
    | some (.error error, e, w) => some (.error error, e, w)
    | some (.ok (), e, w) => some (.ok (), e.openScope, w)

/-- Connect and set the run up. An engine that was started stays as it is. -/
def start (limit : Nat) (e : Engine) (w : World) : Option (Step Unit) :=
  if e.connected then some (.ok (), e, w)
  else
    match w.connect with
    | (.error error, w) => some (.error (.connection error), e, w)
    | (.ok (), w) =>
      match { e with connected := true }.setup limit w with
      | none => none
      | some (.ok (), e, w) => some (.ok (), e, w)
      | some (.error error, e, w) => some (.error error, { e with connected := false }, w.close)

/-! ## Finishing -/

/-- Wait for the background tasks, report the state to the enclosing run and release the client.
An engine that is not started stays as it is. -/
def finish (e : Engine) (w : World) : Engine × World :=
  if !e.connected then (e, w)
  else
    let w := match e.scope with
      | some scope => w.settle scope.group
      | none => w
    let w := match e.state? with
      | some state => w.report state
      | none => w
    ({ e with connected := false, scope := none }, w.close)

end Engine

end RunEngine
