import RunEngine.Json.Fields
import RunEngine.Json.Reader
import RunEngine.Record

/-!
# Records from JSON

How the JSON form of states, schemas and records is read. Readers are more lenient than the form is
written: fields that have a default may be missing and records may be arrays, as `Json.Fields` says.
A tag may come after the data it governs. Then the data must be a value in its own right, even the
parts that the reader would have skipped.
-/

namespace RunEngine

open Source

/-- Reads a value out of a source with at most so many levels of nesting. -/
abbrev Decoder (α : Type) := Nat → Source → Option α

/-- What a text holds, read by a decoder. -/
def Decoder.ofText {α : Type} (decoder : Decoder α) (text : String) : Option α :=
  (Source.read text).bind (decoder Source.maxDepth)

/-! ## Scalars -/

def Uuid.decode (s : Source) : Option Uuid := s.string?.bind Uuid.read

def Timestamp.decode (s : Source) : Option Timestamp := s.string?.bind Timestamp.read

/-- A list of texts. -/
def decodeStrings : Decoder (List String) := fun levels => list? levels fun _ => string?

/-- The parameters of a run. -/
def decodeParameters : Decoder Parameters := fun levels => dict? levels value?

/-! ## States -/

def StateType.decode : Decoder StateType := fun levels s => (s.variant? levels).bind ofText?

def ErrorPayload.decode : Decoder ErrorPayload := fun levels s =>
  match fields? levels ["kind", "message", "causes"] s with
  | some [kind, message, causes] => do
    return {
      kind := ← required string? kind
      message := ← required string? message
      causes := ← defaulted [] (decodeStrings (levels - 1)) causes }
  | _ => none

namespace StateData

/-- The data that a tag governs. -/
def decodeTagged (levels : Nat) (tag : String) (s : Source) : Option StateData :=
  match tag with
  | "result" => (s.value? levels).map .result
  | "error" => (ErrorPayload.decode levels s).map .error
  | _ => none

/-- Whether the member `first` comes before any member `second`. -/
def precedes (first second : String) (members : List (Option String × Source)) : Bool :=
  match members.find? fun m => m.1 == some first || m.1 == some second with
  | some (name, _) => name == some first
  | none => false

def decode : Decoder StateData := fun levels s =>
  match s with
  | .array [tag, value] => do
    if levels = 0 then none
    else decodeTagged (levels - 1) (← tag.variant? (levels - 1)) value
  | .object members => do
    if levels = 0 ∨ members.any (·.1.isNone) then none
    else
      let tag ← required (variant? (levels - 1)) (← unique? "kind" members)
      let value ← ← unique? "value" members
      if precedes "value" "kind" members ∧ (value.value? (levels - 1)).isNone then none
      else decodeTagged (levels - 1) tag value
  | _ => none

end StateData

def State.decode : Decoder State := fun levels s =>
  match fields? levels ["type", "name", "message", "data", "timestamp"] s with
  | some [type, name, message, data, timestamp] => do
    return {
      type := ← required (StateType.decode (levels - 1)) type
      name := ← required string? name
      message := ← defaulted none (option? string?) message
      data := ← defaulted none (option? (StateData.decode (levels - 1))) data
      timestamp := ← required Timestamp.decode timestamp }
  | _ => none

/-! ## Schemas -/

def ParamKind.decode : Decoder ParamKind := fun levels s => (s.variant? levels).bind ofText?

def ParameterSpec.decode : Decoder ParameterSpec := fun levels s =>
  match fields? levels ["name", "kind", "default"] s with
  | some [name, kind, default] => do
    return {
      name := ← required string? name
      kind := ← required (ParamKind.decode (levels - 1)) kind
      default := ← defaulted none (option? (value? (levels - 1))) default }
  | _ => none

def Schema.decode : Decoder Schema := fun levels s =>
  match fields? levels ["params", "allow_extra"] s with
  | some [params, allowExtra] => do
    return {
      params := ← required (list? (levels - 1) ParameterSpec.decode) params
      allowExtra := ← defaulted false bool? allowExtra }
  | _ => none

/-! ## Runs -/

def FlowRun.decode : Decoder FlowRun := fun levels s =>
  match fields? levels
      ["id", "name", "flow_name", "flow_version", "parameters", "state", "parent_task_run_id",
        "tags", "run_count", "created"] s with
  | some [id, name, flowName, flowVersion, parameters, state, parent, tags, runCount, created] => do
    return {
      id := ← required Uuid.decode id
      name := ← defaulted none (option? string?) name
      flowName := ← required string? flowName
      flowVersion := ← defaulted none (option? string?) flowVersion
      parameters := ← defaulted ∅ (decodeParameters (levels - 1)) parameters
      state := ← required (State.decode (levels - 1)) state
      parentTaskRun := ← defaulted none (option? Uuid.decode) parent
      tags := ← defaulted [] (decodeStrings (levels - 1)) tags
      runCount := ← defaulted 0 uint32? runCount
      created := ← required Timestamp.decode created }
  | _ => none

def RetryPolicy.decode : Decoder RetryPolicy := fun levels s =>
  match fields? levels ["retries"] s with
  | some [retries] => do return { retries := ← required uint32? retries }
  | _ => none

def FlowRunRequest.decode : Decoder FlowRunRequest := fun levels s =>
  match fields? levels
      ["flow_name", "flow_version", "name", "parameters", "state", "parent_task_run_id", "tags",
        "empirical_policy"] s with
  | some [flowName, flowVersion, name, parameters, state, parent, tags, policy] => do
    return {
      flowName := ← required string? flowName
      flowVersion := ← defaulted none (option? string?) flowVersion
      name := ← defaulted none (option? string?) name
      parameters := ← defaulted ∅ (decodeParameters (levels - 1)) parameters
      state := ← required (State.decode (levels - 1)) state
      parentTaskRun := ← defaulted none (option? Uuid.decode) parent
      tags := ← defaulted [] (decodeStrings (levels - 1)) tags
      policy := ← defaulted {} (RetryPolicy.decode (levels - 1)) policy }
  | _ => none

/-- The inputs of a task. -/
def decodeInputs : Decoder (Dict (List Uuid)) := fun levels =>
  dict? levels fun levels => list? levels fun _ => Uuid.decode

/-- The fields of a task that is to be created. -/
def TaskRunRequest.ofFields (levels : Nat) (fields : List (Option Source)) :
    Option TaskRunRequest :=
  match fields with
  | [flowRun, name, taskKey, dynamicKey, inputs, state] => do
    return {
      flowRun := ← required Uuid.decode flowRun
      name := ← required string? name
      taskKey := ← required string? taskKey
      dynamicKey := ← required string? dynamicKey
      inputs := ← defaulted ∅ (decodeInputs levels) inputs
      state := ← required (State.decode levels) state }
  | _ => none

/-- The names of the fields of a task that is to be created. -/
def TaskRunRequest.names : List String :=
  ["flow_run_id", "name", "task_key", "dynamic_key", "task_inputs", "state"]

def TaskRunRequest.decode : Decoder TaskRunRequest := fun levels s =>
  (fields? levels names s).bind (ofFields (levels - 1))

def TaskRun.decode : Decoder TaskRun := fun levels s =>
  match fields? levels ("id" :: TaskRunRequest.names) s with
  | some (id :: task) => do
    return {
      id := ← required Uuid.decode id
      task := ← TaskRunRequest.ofFields (levels - 1) task }
  | _ => none

/-! ## Answers -/

namespace Answer

/-- The names of the fields that go with a status. -/
def names? : String → Option (List String)
  | "accept" => some ["state"]
  | "reject" => some ["state", "reason"]
  | "wait" => some ["delay_seconds", "reason"]
  | "abort" => some ["reason"]
  | _ => none

/-- The answer with a status and its fields. -/
def ofFields (levels : Nat) (status : String) (fields : List (Option Source)) : Option Answer :=
  match status, fields with
  | "accept", [state] => do
    return .accept (← required (State.decode levels) state)
  | "reject", [state, reason] => do
    return .reject (← required (State.decode levels) state) (← required string? reason)
  | "wait", [delay, reason] => do
    return .wait (← required float? delay) (← required string? reason)
  | "abort", [reason] => do
    return .abort (← required string? reason)
  | _, _ => none

/-- The status comes first in an array and anywhere among the members of an object. -/
def decode : Decoder Answer := fun levels s =>
  if (s.value? levels).isNone then none
  else
    match s with
    | .array (tag :: items) => do
      let status ← tag.string?
      ofFields (levels - 1) status (← fields? levels (← names? status) (.array items))
    | .object members => do
      let status ← required string? (← unique? "status" members)
      ofFields (levels - 1) status (← fields? levels (← names? status) s)
    | _ => none

end Answer

end RunEngine
