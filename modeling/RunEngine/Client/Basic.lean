import RunEngine.Client.Local
import RunEngine.Client.Remote

/-!
# Clients

The boundary to whatever keeps the records: an orchestrator in memory or a remote API. An engine
only knows the operations below. An operation gives its answer and the client as it is afterwards;
creating something in memory also uses up an identifier.
-/

namespace RunEngine

/-- A client of an orchestration API. -/
inductive Client where
  | inMemory (client : LocalClient)
  | remote (client : RemoteClient)

namespace Client

instance : Inhabited Client := ⟨.inMemory {}⟩

/-- Open the connection. -/
def connect : Client → Except ClientError Unit × Client
  | inMemory c => let (answer, c) := c.connect; (answer, inMemory c)
  | remote c => let (answer, c) := c.connect; (answer, remote c)

/-- Release the connection. -/
def close : Client → Client
  | inMemory c => inMemory c.close
  | remote c => remote c

/-- Whether a run on another runtime gets connections of its own, rather than sharing. -/
def hasConnections : Client → Bool
  | inMemory _ => false
  | remote _ => true

/-- A client for a run on another runtime. A remote client opens new connections to the same API. -/
def fork : Client → Except ClientError Unit × Client
  | inMemory c => let (answer, c) := c.fork; (answer, inMemory c)
  | remote c => (.ok (), remote c)

def createFlowRun (client : Client) (ids : IdSupply) (time : Timestamp)
    (request : FlowRunRequest) : Except ClientError FlowRun × Client × IdSupply :=
  match client with
  | inMemory c =>
    let (answer, c, ids) := c.createFlowRun ids time request
    (answer, inMemory c, ids)
  | remote c => let (answer, c) := c.createFlowRun request; (answer, remote c, ids)

def readFlowRun (client : Client) (id : Uuid) : Except ClientError FlowRun × Client :=
  match client with
  | inMemory c => let (answer, c) := c.readFlowRun id; (answer, inMemory c)
  | remote c => let (answer, c) := c.readFlowRun id; (answer, remote c)

/-- Propose a state for a run. The answer says what was recorded. -/
def propose (client : Client) (time : Timestamp) (id : Uuid) (state : State) :
    Except ClientError Answer × Client :=
  match client with
  | inMemory c => let (answer, c) := c.propose time id state; (answer, inMemory c)
  | remote c => let (answer, c) := c.propose id state; (answer, remote c)

def createTaskRun (client : Client) (ids : IdSupply) (request : TaskRunRequest) :
    Except ClientError TaskRun × Client × IdSupply :=
  match client with
  | inMemory c => let (answer, c, ids) := c.createTaskRun ids request; (answer, inMemory c, ids)
  | remote c => let (answer, c) := c.createTaskRun request; (answer, remote c, ids)

end Client

end RunEngine
