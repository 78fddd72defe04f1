import RunEngine.Orchestrator

/-!
# The client of an orchestrator in memory

A client that keeps a log of the calls it gets and passes them on to its own orchestrator, unless a
script says how a call is answered. A script is a list of answers for one kind of call, each used
once; a gap in it, and its end, let the call through.
-/

namespace RunEngine

/-- One call of a client. -/
inductive Call where
  | connect
  | close
  | fork
  | createFlowRun (request : FlowRunRequest)
  | readFlowRun (id : Uuid)
  | propose (id : Uuid) (state : State)
  | createTaskRun (request : TaskRunRequest)
  deriving DecidableEq

/-- Prepared answers to calls of one kind. -/
abbrev Script (α : Type) := List (Option (Except ClientError α))

/-- The answer to the next call, if one is prepared, and the rest of the script. -/
def Script.take {α : Type} : Script α → Option (Except ClientError α) × Script α
  | [] => (none, [])
  | answer :: rest => (answer, rest)

/-- A client with an orchestrator of its own. -/
structure LocalClient where
  orchestrator : Orchestrator := {}
  connects : Script Unit := []
  creations : Script FlowRun := []
  answers : Script Answer := []
  taskCreations : Script TaskRun := []
  /-- Why the client cannot be forked, if it cannot. -/
  forkError : Option ClientError := none
  /-- Every call so far, in order. -/
  calls : List Call := []
  deriving Inhabited

namespace LocalClient

/-- The client once it has noted a call. -/
def note (c : LocalClient) (call : Call) : LocalClient := { c with calls := c.calls ++ [call] }

def connect (c : LocalClient) : Except ClientError Unit × LocalClient :=
  let c := c.note .connect
  match Script.take c.connects with
  | (some answer, connects) => (answer, { c with connects })
  | (none, connects) =>
    let (answer, orchestrator) := c.orchestrator.connect
    (answer, { c with connects, orchestrator })

def close (c : LocalClient) : LocalClient :=
  let c := c.note .close
  { c with orchestrator := c.orchestrator.close }

/-- A client for use on another runtime. One in memory is shared, unless it refuses. -/
def fork (c : LocalClient) : Except ClientError Unit × LocalClient :=
  let c := c.note .fork
  match c.forkError with
  | some e => (.error e, c)
  | none => (.ok (), c)

def createFlowRun (c : LocalClient) (ids : IdSupply) (time : Timestamp)
    (request : FlowRunRequest) : Except ClientError FlowRun × LocalClient × IdSupply :=
  let c := c.note (.createFlowRun request)
  match Script.take c.creations with
  | (some answer, creations) => (answer, { c with creations }, ids)
  | (none, creations) =>
    let (id, ids) := ids.takeRun
    let (run, orchestrator) := c.orchestrator.createFlowRun id time request
    (.ok run, { c with creations, orchestrator }, ids)

def readFlowRun (c : LocalClient) (id : Uuid) : Except ClientError FlowRun × LocalClient :=
  let c := c.note (.readFlowRun id)
  (c.orchestrator.readFlowRun id, c)

def propose (c : LocalClient) (time : Timestamp) (id : Uuid) (state : State) :
    Except ClientError Answer × LocalClient :=
  let c := c.note (.propose id state)
  match Script.take c.answers with
  | (some answer, answers) => (answer, { c with answers })
  | (none, answers) =>
    let (answer, orchestrator) := c.orchestrator.propose time id state
    (.ok answer, { c with answers, orchestrator })

def createTaskRun (c : LocalClient) (ids : IdSupply) (request : TaskRunRequest) :
    Except ClientError TaskRun × LocalClient × IdSupply :=
  let c := c.note (.createTaskRun request)
  match Script.take c.taskCreations with
  | (some answer, taskCreations) => (answer, { c with taskCreations }, ids)
  | (none, taskCreations) =>
    let (id, rest) := ids.takeTask
    let (answer, orchestrator) := c.orchestrator.createTaskRun id request
    (answer, { c with taskCreations, orchestrator }, if answer.isOk then rest else ids)

end LocalClient

end RunEngine
