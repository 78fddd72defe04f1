import RunEngine.Engine

/-!
# Running a flow

A run is driven in two loops. As long as the orchestrator keeps the run pending it is proposed to
run again after a delay, and as long as it is running the body is invoked and its outcome proposed.
The outcome of one attempt may be answered with the next, which is how retries come about.

`World.runFlow` runs a flow for a caller. The client is the one that the caller brings, else that of
the enclosing run. A caller that blocks its thread while it is on a runtime has the run driven
elsewhere, with a fork of the client; none of the time that passes there passes for the caller.

Neither loop need end by itself. `limit` bounds them and the proposals they make, and there is no
answer when it is reached.
-/

namespace RunEngine

/-! ## Driving -/

/-- How the body of a flow is invoked, when it has been invoked so many times before. -/
abbrev Invoke := Nat → Parameters → World → Option (Except Failure Json × World)

namespace Engine

/-- Propose to run until the run is no longer pending. -/
def awaitAdmission (backoff : Nat) : (limit : Nat) → Engine → World → Option (Step Unit)
  | 0, _, _ => none
  | limit + 1, e, w =>
    match e.beginRun limit w with
    | none => none
    | some (.error error, e, w) => some (.error error, e, w)
    | some (.ok _, e, w) =>
      if e.isPending then awaitAdmission backoff limit e (w.sleep backoff)
      else some (.ok (), e, w)

/-- The world that the body finds: the scope of the run is the innermost one. -/
def enter (e : Engine) (scope : Scope) (w : World) : World :=
  { w.record (.invoke e.parameters) with scopes := scope :: w.scopes }

/-- Invoke the body inside the scope of the run. -/
def invoke (e : Engine) (body : Invoke) (w : World) :
    Option (Except Failure Json × Engine × World) :=
  match e.scope with
  | none => none
  | some scope =>
    match body e.invocations e.parameters (e.enter scope w) with
    | none => none
    | some (outcome, inside) =>
      let e := { e with scope := inside.scopes.head?, invocations := e.invocations + 1 }
      some (outcome, e, { inside with scopes := inside.scopes.tail }.record (.returned outcome))

/-- Invoke the body and propose its outcome. The answer is the value of a successful attempt. -/
def attempt (body : Invoke) (limit : Nat) (e : Engine) (w : World) :
    Option (Step (Option Json)) :=
  match e.invoke body w with
  | none => none
  | some (.ok value, e, w) =>
    match e.handleSuccess limit w value with
    | none => none
    | some (.error error, e, w) => some (.error error, e, w)
    | some (.ok value, e, w) => some (.ok (some value), e, w)
  | some (.error failure, e, w) =>
    match e.handleException limit w failure with
    | none => none
    | some (.error error, e, w) => some (.error error, e, w)
    | some (.ok _, e, w) => some (.ok none, e, w)

/-- Make attempts until the run is no longer running. When the caller is after the result, the
value of a successful attempt ends them at once. -/
def attempts (body : Invoke) (returnType : ReturnType) :
    (limit : Nat) → Engine → World → Option (Step (Option Json))
  | 0, _, _ => none
  | limit + 1, e, w =>
    if !e.isRunning then some (.ok none, e, w)
    else
      match e.attempt body limit w with
      | none => none
      | some (.error error, e, w) => some (.error error, e, w)
      | some (.ok value, e, w) =>
        if value.isSome ∧ returnType = .result then some (.ok value, e, w)
        else attempts body returnType limit e w

/-- What a caller gets for the state the run is in. -/
def output (e : Engine) (options : RunOptions) : Except EngineError RunOutput :=
  match options.returnType with
  | .state =>
    match e.state? with
    | some state => .ok (.state state)
    | none => .error .missingFlowRun
  | .result => (e.result options.raiseOnFailure).map RunOutput.ofData

/-- Take a run that was set up to its end. -/
def drive (limit : Nat) (body : Invoke) (options : RunOptions) (e : Engine) (w : World) :
    Option (Step RunOutput) :=
  match e.awaitAdmission options.backoff limit w with
  | none => none
  | some (.error error, e, w) => some (.error error, e, w)
  | some (.ok (), e, w) =>
    match e.attempts body options.returnType limit w with
    | none => none
    | some (.error error, e, w) => some (.error error, e, w)
    | some (.ok (some value), e, w) => some (.ok (.value (some value)), e, w)
    | some (.ok none, e, w) => some (e.output options, e, w)

/-- Start an engine, drive its run and finish. -/
def execute (limit : Nat) (body : Invoke) (options : RunOptions) (e : Engine) (w : World) :
    Option (Except EngineError RunOutput × World) :=
  match e.start limit w with
  | none => none
  | some (.error error, _, w) => some (.error error, w)
  | some (.ok (), e, w) =>
    if e.scope.isNone then some (.error .notStarted, (e.finish w).2)
    else
      match e.drive limit body options w with
      | none => none
      | some (outcome, e, w) => some (outcome, (e.finish w).2)

end Engine

/-! ## Callers -/

namespace World

/-- The client that a run gets: the caller's, else that of the enclosing run, else the default. -/
def clientFor (w : World) (options : RunOptions) : Except EngineError Client :=
  match options.client with
  | some client => .ok client
  | none => if w.scopes.isEmpty then w.defaultClient else .ok w.client

/-- The engine for a request. -/
def engineFor (flow : Flow) (request : RunRequest) : Engine :=
  { flow
    parameters := request.parameters
    record := request.options.flowRun
    mode := match request.entry with
      | .await => .cooperative
      | .block => .blocking
    group := match request.entry with
      | .await => none
      | .block => some { isPrivate := true } }

/-- Where a run is driven, and whether its client lets it be. A caller that blocks a thread of a
runtime has the run driven elsewhere, with a fork of the client. -/
def board (w : World) : Entry → Except ClientError Unit × World
  | .await => (.ok (), w)
  | .block =>
    let (forked, entered) := if w.onRuntime then w.fork else (.ok (), w)
    (forked, { entered with onRuntime := true })

/-- What the caller in `w` finds when its run has left the world `left`. On the runtime and the
clock of a caller that was blocked nothing happened, and a client that is not the enclosing run's is
handed back. -/
def alight (w : World) (request : RunRequest) (left : World) : World :=
  let left := match request.entry with
    | .await => left
    | .block => { left with onRuntime := w.onRuntime, clock := w.clock }
  if request.options.client.isNone && !w.scopes.isEmpty then left
  else { left with client := w.client }

/-- Run a flow for a caller. -/
def runFlow (limit : Nat) (body : Invoke) (flow : Flow) (request : RunRequest) (w : World) :
    Option (RunReply × World) :=
  match w.clientFor request.options with
  | .error error => some ({ outcome := .error error, client := w.client }, w)
  | .ok client =>
    match { w with client }.board request.entry with
    | (.error error, left) =>
      some ({ outcome := .error (.client error), client := left.client }, w.alight request left)
    | (.ok (), entered) =>
      match (engineFor flow request).execute limit body request.options entered with
      | none => none
      | some (outcome, left) => some ({ outcome, client := left.client }, w.alight request left)

end World

/-! ## Bodies -/

/-- Run a body. -/
def Program.run (limit : Nat) : Program → World → Option (Except Failure Json × World)
  | .done outcome, w => some (outcome, w)
  | .perform action next, w =>
    (next (w.perform action).1).run limit (w.perform action).2
  | .runFlow flow body request next, w =>
    match w.runFlow limit (fun n parameters inside => (body n parameters).run limit inside)
        flow request with
    | none => none
    | some (reply, w) => (next reply).run limit w

/-- A body as the engine invokes it. -/
def Body.invoke (limit : Nat) (body : Body) : Invoke := fun n parameters w =>
  (body n parameters).run limit w

end RunEngine
