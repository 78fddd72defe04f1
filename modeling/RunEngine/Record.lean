import RunEngine.Error
import RunEngine.Parameters

/-!
# Records of runs

What an orchestrator keeps of runs, what it is asked to keep, and how it answers a proposed state.
A nested run has a task run as its link to the run it was started in.
-/

namespace RunEngine

/-! ## Flow runs -/

/-- What the orchestrator keeps of one execution of a flow. -/
structure FlowRun where
  id : Uuid
  name : Option String
  flowName : String
  flowVersion : Option String
  parameters : Parameters
  state : State
  /-- The task run that stands for this run in the enclosing run. -/
  parentTaskRun : Option Uuid
  tags : List String
  /-- How many attempts were started. -/
  runCount : UInt32
  created : Timestamp
  deriving DecidableEq

/-- What an orchestrator consults when a run proposes to fail. -/
structure RetryPolicy where
  retries : UInt32 := 0
  deriving DecidableEq, Inhabited

/-- A flow run that is to be created. -/
structure FlowRunRequest where
  flowName : String
  flowVersion : Option String := none
  name : Option String := none
  parameters : Parameters := ∅
  state : State
  parentTaskRun : Option Uuid := none
  tags : List String := []
  policy : RetryPolicy := {}
  deriving DecidableEq

/-- The record of a request, before any attempt. -/
def FlowRunRequest.record (r : FlowRunRequest) (id : Uuid) (created : Timestamp) : FlowRun :=
  { id, created
    name := r.name
    flowName := r.flowName
    flowVersion := r.flowVersion
    parameters := r.parameters
    state := r.state
    parentTaskRun := r.parentTaskRun
    tags := r.tags
    runCount := 0 }

/-! ## Task runs -/

/-- A task run that is to be created. -/
structure TaskRunRequest where
  /-- The run the task belongs to. -/
  flowRun : Uuid
  name : String
  taskKey : String
  /-- Tells the tasks of a run with one task key apart. -/
  dynamicKey : String
  /-- The runs each input comes from, by the name of the input. -/
  inputs : Dict (List Uuid) := ∅
  state : State
  deriving DecidableEq

/-- What the orchestrator keeps of one task of a run. -/
structure TaskRun where
  id : Uuid
  task : TaskRunRequest
  deriving DecidableEq

/-! ## Answers -/

/-- The answer to a proposed state. -/
inductive Answer where
  /-- The proposal was recorded. -/
  | accept (state : State)
  /-- Another state was recorded instead. -/
  | reject (state : State) (reason : String)
  /-- The run is to propose again after so many seconds. -/
  | wait (delay : Binary64) (reason : String)
  /-- The run must stop. -/
  | abort (reason : String)
  deriving DecidableEq

/-- The state that an answer says was recorded. -/
def Answer.recorded? : Answer → Option State
  | accept state => some state
  | reject state _ => some state
  | wait .. => none
  | abort _ => none

end RunEngine
