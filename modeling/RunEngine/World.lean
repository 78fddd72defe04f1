import RunEngine.Delay
import RunEngine.Program

/-!
# The world of a run

Everything that engines and bodies act on: the client of the run at hand, the scopes they are in,
the clock, the supply of identifiers and a journal of what happened. Operations give their reply and
the world afterwards.

The wall clock stands still: `now` is the time on every state and record that is made.
-/

namespace RunEngine

/-! ## The journal -/

/-- What a body left in the journal. -/
inductive Note where
  | value (value : Json)
  /-- The scopes, innermost first. -/
  | scopes (scopes : List Scope)

/-- A line in the log of a run. -/
structure LogRecord where
  level : LogLevel
  message : String
  flow : String
  runName : Option String
  deriving DecidableEq

/-- A step of an engine. -/
inductive Event where
  | connect (answer : Except ClientError Unit)
  | createTaskRun (request : TaskRunRequest) (answer : Except ClientError TaskRun)
  | createFlowRun (request : FlowRunRequest) (answer : Except ClientError FlowRun)
  | propose (id : Uuid) (state : State) (answer : Except ClientError Answer)
  | invoke (parameters : Parameters)
  | returned (outcome : Except Failure Json)
  /-- The background tasks were waited for, and these took effect. -/
  | settle (effective : List String)
  /-- The final state was recorded in the enclosing scope. -/
  | report (state : State)
  | close
  | fork (answer : Except ClientError Unit)

structure Journal where
  notes : List Note := []
  logs : List LogRecord := []
  /-- The lines that were printed. -/
  printed : List String := []
  /-- The background tasks that took effect. -/
  background : List String := []
  /-- What engines did, each step with the number of scopes around the run. -/
  events : List (Nat × Event) := []
  deriving Inhabited

/-! ## The world -/

structure World where
  /-- The client of the innermost run. -/
  client : Client := default
  /-- What gives a run outside of any other its client, unless it brings one. -/
  defaultClient : Except EngineError Client := .ok default
  /-- The scopes around what happens now, innermost first. -/
  scopes : List Scope := []
  /-- Whether the thread belongs to a runtime. -/
  onRuntime : Bool := true
  /-- Milliseconds that have passed on the runtime's clock. -/
  clock : Nat := 0
  now : Timestamp := default
  ids : IdSupply := {}
  journal : Journal := {}
  deriving Inhabited

namespace World

def record (w : World) (event : Event) : World :=
  { w with journal := { w.journal with events := w.journal.events ++ [(w.scopes.length, event)] } }

def sleep (w : World) (duration : Nat) : World := { w with clock := w.clock + duration }

/-! ## Calls of an engine -/

def connect (w : World) : Except ClientError Unit × World :=
  let (answer, client) := w.client.connect
  (answer, { w with client }.record (.connect answer))

def close (w : World) : World := { w with client := w.client.close }.record .close

def fork (w : World) : Except ClientError Unit × World :=
  let (answer, client) := w.client.fork
  (answer, { w with client }.record (.fork answer))

def createTaskRun (w : World) (request : TaskRunRequest) : Except ClientError TaskRun × World :=
  let (answer, client, ids) := w.client.createTaskRun w.ids request
  (answer, { w with client, ids }.record (.createTaskRun request answer))

def createFlowRun (w : World) (request : FlowRunRequest) : Except ClientError FlowRun × World :=
  let (answer, client, ids) := w.client.createFlowRun w.ids w.now request
  (answer, { w with client, ids }.record (.createFlowRun request answer))

def propose (w : World) (id : Uuid) (state : State) : Except ClientError Answer × World :=
  let (answer, client) := w.client.propose w.now id state
  (answer, { w with client }.record (.propose id state answer))

/-- Wait for the tasks of a group. Those on the caller's runtime take the clock along. -/
def settle (w : World) (group : TaskGroup) : World :=
  let clock := if group.isPrivate then w.clock else group.lastDue w.clock
  let background := w.journal.background ++ group.effective
  { w with clock, journal := { w.journal with background } }.record (.settle group.effective)

/-- Record the final state of a run in the scope around it, if there is one. -/
def report (w : World) (state : State) : World :=
  match w.scopes with
  | [] => w
  | scope :: rest => { w with scopes := scope.recordChild state :: rest }.record (.report state)

/-! ## Actions of a body -/

/-- The error of an action that needs a run. -/
def noScope : Failure := { fault := .noContext }

/-- Do something with the innermost scope. -/
def inScope {α : Type} (w : World) (act : Scope → α × World) : Except Failure α × World :=
  match w.scopes with
  | [] => (.error noScope, w)
  | scope :: _ => let (reply, w) := act scope; (.ok reply, w)

/-- The world with another innermost scope. -/
def withScope (w : World) (scope : Scope) : World := { w with scopes := scope :: w.scopes.drop 1 }

def addLog (w : World) (scope : Scope) (level : LogLevel) (message : String) : World :=
  let line : LogRecord := { level, message, flow := scope.flow.name, runName := scope.runName }
  { w with journal := { w.journal with logs := w.journal.logs ++ [line] } }

def addNote (w : World) (note : Note) : World :=
  { w with journal := { w.journal with notes := w.journal.notes ++ [note] } }

def print (w : World) (message : String) : World :=
  { w with journal := { w.journal with printed := w.journal.printed ++ [message] } }

/-- Take a step of a body. -/
def perform (w : World) : (action : Action) → action.Reply × World
  | .log level message => w.inScope fun scope => ((), w.addLog scope level message)
  | .print message => w.inScope fun scope =>
    ((), if scope.flow.logPrints then w.addLog scope .info message else w.print message)
  | .look => w.inScope fun scope => (scope.view, w)
  | .snapshot => w.inScope fun _ => ((), w.addNote (.scopes w.scopes))
  | .note value => ((), w.addNote (.value value))
  | .dynamicKey taskKey => w.inScope fun scope =>
    let (key, scope) := scope.nextDynamicKey taskKey
    (key, w.withScope scope)
  | .spawn name delay panics spawns => w.inScope fun scope =>
    let plan : TaskPlan := { name, delay, panics, spawns }
    let group := scope.group.spawn (plan.begun w.clock)
    ((), w.withScope { scope with group })
  | .sleep duration => ((), w.sleep duration)
  | .occupy _ => ((), w)
  | .propose state => w.inScope fun scope =>
    let (answer, client) := w.client.propose w.now scope.runId state
    (answer, { w with client })

end World

end RunEngine
