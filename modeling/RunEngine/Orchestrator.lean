import RunEngine.Record

/-!
# The orchestrator

An orchestrator kept in memory. It stores runs in order of creation and decides about every state
that is proposed for one:

* a run that is over stays as it is;
* the first proposals to run are held back, as many for each run as the orchestrator is set up to
  hold, and leave the run pending;
* an attempt that fails while the run's policy still allows a retry becomes a retry;
* every other proposal is accepted.

An attempt is counted when a run is admitted that was not running, and when a retry is granted.
-/

namespace RunEngine

/-! ## One run -/

/-- A run with what the orchestrator needs to know to decide about it. -/
structure StoredRun where
  record : FlowRun
  policy : RetryPolicy
  /-- How many proposals to run were held back. -/
  held : Nat := 0
  deriving DecidableEq

namespace StoredRun

/-- The run with a state and an attempt count recorded. -/
def put (r : StoredRun) (state : State) (runCount : UInt32) : StoredRun :=
  { r with record := { r.record with state, runCount } }

/-- Whether a failed attempt is to be retried: one is under way and the policy is not used up. -/
def mayRetry (r : StoredRun) : Bool :=
  r.record.state.isRunning && r.record.runCount ≤ r.policy.retries

/-- The decision about a proposal, when `hold` proposals to run are held back for each run. -/
def judge (hold : Nat) (time : Timestamp) (r : StoredRun) (proposed : State) :
    Answer × StoredRun :=
  let current := r.record.state
  let attempts := r.record.runCount
  if current.isFinal then
    (.reject current ("run is already in terminal state " ++ current.type.text), r)
  else
    match proposed.type with
    | .running =>
      if r.held < hold then
        let state := (State.pending time).withMessage "waiting for admission"
        (.reject state "run is not yet admitted", { r.put state attempts with held := r.held + 1 })
      else
        let started := if current.isRunning then attempts else attempts + 1
        (.accept proposed, r.put proposed started)
    | .failed =>
      if r.mayRetry then
        let state := (State.retrying time).withMessage
          ("Retry " ++ toString attempts.toNat ++ "/" ++ toString r.policy.retries.toNat)
        (.reject state ("retrying after failed attempt " ++ toString attempts.toNat),
          r.put state (attempts + 1))
      else (.accept proposed, r.put proposed attempts)
    | _ => (.accept proposed, r.put proposed attempts)

end StoredRun

/-! ## The store -/

/-- An orchestrator with all it has recorded. -/
structure Orchestrator where
  /-- How many proposals to run are held back for each run. -/
  hold : Nat := 0
  /-- While set, nobody can connect. -/
  unreachable : Bool := false
  connects : Nat := 0
  closes : Nat := 0
  /-- The runs in order of creation. -/
  stored : List StoredRun := []
  /-- The task runs in order of creation. -/
  taskRuns : List TaskRun := []
  /-- The type of every state that was proposed, and for which run, in order. -/
  log : List (Uuid × StateType) := []
  deriving DecidableEq, Inhabited

namespace Orchestrator

/-! ### Looking up -/

/-- The run with that identifier. -/
def find? (o : Orchestrator) (id : Uuid) : Option StoredRun :=
  o.stored.find? fun r => r.record.id == id

/-- The record of the run with that identifier. -/
def flowRun? (o : Orchestrator) (id : Uuid) : Option FlowRun := (o.find? id).map (·.record)

/-- The records of all runs, in order of creation. -/
def flowRuns (o : Orchestrator) : List FlowRun := o.stored.map (·.record)

/-- The types of the states proposed for a run, in order. -/
def proposals (o : Orchestrator) (id : Uuid) : List StateType :=
  (o.log.filter fun p => p.1 == id).map (·.2)

/-- What a run that is not there is reported as. -/
def unknown (id : Uuid) : ClientError := .notFound "flow run" id

/-! ### Operations -/

def connect (o : Orchestrator) : Except ClientError Unit × Orchestrator :=
  if o.unreachable then (.error (.unreachable "in-memory orchestrator is offline"), o)
  else (.ok (), { o with connects := o.connects + 1 })

def close (o : Orchestrator) : Orchestrator := { o with closes := o.closes + 1 }

/-- Store a new run under the identifier `id`. -/
def createFlowRun (o : Orchestrator) (id : Uuid) (time : Timestamp) (request : FlowRunRequest) :
    FlowRun × Orchestrator :=
  let record := request.record id time
  (record, { o with stored := o.stored ++ [{ record, policy := request.policy }] })

def readFlowRun (o : Orchestrator) (id : Uuid) : Except ClientError FlowRun :=
  match o.flowRun? id with
  | some record => .ok record
  | none => .error (unknown id)

/-- The store with `r` in the place of the run that has its identifier. -/
def replace (o : Orchestrator) (r : StoredRun) : Orchestrator :=
  { o with stored := o.stored.map fun s => if s.record.id = r.record.id then r else s }

/-- Decide about a state proposed for a run, and record the decision. -/
def propose (o : Orchestrator) (time : Timestamp) (id : Uuid) (state : State) :
    Answer × Orchestrator :=
  let o := { o with log := o.log ++ [(id, state.type)] }
  match o.find? id with
  | none => (.abort ("flow run " ++ id.toText ++ " does not exist"), o)
  | some run =>
    let (answer, run) := run.judge o.hold time state
    (answer, o.replace run)

/-- Store a new task run under the identifier `id`, if the run it belongs to is there. -/
def createTaskRun (o : Orchestrator) (id : Uuid) (request : TaskRunRequest) :
    Except ClientError TaskRun × Orchestrator :=
  match o.find? request.flowRun with
  | none => (.error (unknown request.flowRun), o)
  | some _ =>
    let record : TaskRun := { id, task := request }
    (.ok record, { o with taskRuns := o.taskRuns ++ [record] })

end Orchestrator

end RunEngine
