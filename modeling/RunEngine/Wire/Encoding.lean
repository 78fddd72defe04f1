import RunEngine.Json.Basic
import RunEngine.Record

/-!
# Records as JSON

The JSON form in which states, schemas and records are exchanged with an orchestration API. A record
is an object with all its fields, in order of declaration; what is absent is `null`. Alternatives
that carry data are tagged by a member of the object.
-/

namespace RunEngine

/-- An identifier by its text. -/
def Uuid.toJson (u : Uuid) : Json := .string u.toText

/-- A time by its text. -/
def Timestamp.toJson (t : Timestamp) : Json := .string t.toText

/-- A word as an integer. -/
def Json.word (n : UInt32) : Json := .nat n.toNat

/-! ## States -/

def StateType.toJson (t : StateType) : Json := .string t.text

def ErrorPayload.toJson (p : ErrorPayload) : Json :=
  .object
    [("kind", .string p.kind), ("message", .string p.message), ("causes", .ofStrings p.causes)]

def StateData.toJson : StateData → Json
  | result value => .object [("kind", .string "result"), ("value", value)]
  | error payload => .object [("kind", .string "error"), ("value", payload.toJson)]

def State.toJson (s : State) : Json :=
  .object
    [("type", s.type.toJson), ("name", .string s.name), ("message", .ofOption .string s.message),
      ("data", .ofOption StateData.toJson s.data), ("timestamp", s.timestamp.toJson)]

/-! ## Schemas -/

def ParamKind.toJson (k : ParamKind) : Json := .string k.text

def ParameterSpec.toJson (s : ParameterSpec) : Json :=
  .object
    [("name", .string s.name), ("kind", s.kind.toJson), ("default", .ofOption id s.default)]

def Schema.toJson (s : Schema) : Json :=
  .object
    [("params", .array (s.params.map ParameterSpec.toJson)), ("allow_extra", .bool s.allowExtra)]

/-! ## Runs -/

def FlowRun.toJson (r : FlowRun) : Json :=
  .object
    [("id", r.id.toJson), ("name", .ofOption .string r.name), ("flow_name", .string r.flowName),
      ("flow_version", .ofOption .string r.flowVersion), ("parameters", .ofDict r.parameters),
      ("state", r.state.toJson), ("parent_task_run_id", .ofOption Uuid.toJson r.parentTaskRun),
      ("tags", .ofStrings r.tags), ("run_count", .word r.runCount), ("created", r.created.toJson)]

def RetryPolicy.toJson (p : RetryPolicy) : Json := .object [("retries", .word p.retries)]

def FlowRunRequest.toJson (r : FlowRunRequest) : Json :=
  .object
    [("flow_name", .string r.flowName), ("flow_version", .ofOption .string r.flowVersion),
      ("name", .ofOption .string r.name), ("parameters", .ofDict r.parameters),
      ("state", r.state.toJson), ("parent_task_run_id", .ofOption Uuid.toJson r.parentTaskRun),
      ("tags", .ofStrings r.tags), ("empirical_policy", r.policy.toJson)]

/-- The inputs of a task: the runs each comes from. -/
def inputsToJson (inputs : Dict (List Uuid)) : Json :=
  .ofDict (inputs.map fun ids => .array (ids.map Uuid.toJson))

/-- The fields of a task that is to be created. -/
def TaskRunRequest.fields (r : TaskRunRequest) : List (String × Json) :=
  [("flow_run_id", r.flowRun.toJson), ("name", .string r.name), ("task_key", .string r.taskKey),
    ("dynamic_key", .string r.dynamicKey), ("task_inputs", inputsToJson r.inputs),
    ("state", r.state.toJson)]

def TaskRunRequest.toJson (r : TaskRunRequest) : Json := .object r.fields

def TaskRun.toJson (r : TaskRun) : Json := .object (("id", r.id.toJson) :: r.task.fields)

/-! ## Answers -/

/-- A float as a number; a number that JSON cannot write is `null`. -/
def Json.ofFloat (x : Binary64) : Json := if x.isFinite then .number (.float x) else .null

def Answer.toJson : Answer → Json
  | accept state => .object [("status", .string "accept"), ("state", state.toJson)]
  | reject state reason =>
    .object [("status", .string "reject"), ("state", state.toJson), ("reason", .string reason)]
  | wait delay reason =>
    .object
      [("status", .string "wait"), ("delay_seconds", .ofFloat delay), ("reason", .string reason)]
  | abort reason => .object [("status", .string "abort"), ("reason", .string reason)]

/-- The body of a request that proposes a state. -/
def State.proposalToJson (s : State) : Json := .object [("state", s.toJson)]

end RunEngine
