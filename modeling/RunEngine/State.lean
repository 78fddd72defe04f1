import RunEngine.Json.Basic
import RunEngine.Timestamp

/-!
# Run states

A `State` says where a run stands. States are values: a transition replaces the state of a run by
another one. `State.resolve` turns the state of a run into what a caller gets for it.
-/

namespace RunEngine

/-! ## Types of states -/

inductive StateType where
  | pending
  | running
  | completed
  | failed
  | crashed
  | retrying
  deriving DecidableEq, Inhabited

namespace StateType

/-- A completed, failed or crashed run is over. -/
def isFinal : StateType → Bool
  | completed | failed | crashed => true
  | pending | running | retrying => false

/-- An attempt is under way; a granted retry is one. -/
def isRunning : StateType → Bool
  | running | retrying => true
  | pending | completed | failed | crashed => false

/-- The name a state of this type has unless it is given another. -/
def defaultName : StateType → String
  | pending => "Pending"
  | running => "Running"
  | completed => "Completed"
  | failed => "Failed"
  | crashed => "Crashed"
  | retrying => "Retrying"

/-- The type in capitals. -/
def text : StateType → String
  | pending => "PENDING"
  | running => "RUNNING"
  | completed => "COMPLETED"
  | failed => "FAILED"
  | crashed => "CRASHED"
  | retrying => "RETRYING"

/-- Every type, in order of declaration. -/
def all : List StateType := [pending, running, completed, failed, crashed, retrying]

/-- The type with that text. -/
def ofText? (text : String) : Option StateType := all.find? fun t => t.text == text

theorem ofText?_text (t : StateType) : ofText? t.text = some t := by cases t <;> decide

end StateType

/-! ## Payloads -/

/-- An error as it is kept on a state. -/
structure ErrorPayload where
  kind : String
  message : String
  /-- What caused the error, outermost cause first. -/
  causes : List String
  deriving DecidableEq

namespace ErrorPayload

def text (p : ErrorPayload) : String := p.kind ++ ": " ++ p.message

end ErrorPayload

/-- What a state carries. -/
inductive StateData where
  | result (value : Json)
  | error (payload : ErrorPayload)
  deriving DecidableEq

/-! ## States -/

structure State where
  type : StateType
  name : String
  message : Option String
  data : Option StateData
  timestamp : Timestamp
  deriving DecidableEq

/-- Why the state of a run resolves to no value. -/
inductive RunError where
  /-- The run failed or crashed. -/
  | failed (type : StateType) (message : String) (cause : Option ErrorPayload)
  /-- The run is not over. -/
  | unfinished (type : StateType)
  deriving DecidableEq

namespace RunError

def text : RunError → String
  | failed type message _ => "flow run " ++ type.text ++ ": " ++ message
  | unfinished type => "flow run is not finished, current state is " ++ type.text

/-- The error that the failed run was left with, if any. -/
def cause : RunError → Option ErrorPayload
  | failed _ _ cause => cause
  | unfinished _ => none

end RunError

namespace State

/-- A state of the given type and nothing else. -/
def ofType (time : Timestamp) (type : StateType) : State :=
  ⟨type, type.defaultName, none, none, time⟩

instance : Inhabited State := ⟨ofType default .pending⟩

def withName (s : State) (name : String) : State := { s with name }

def withMessage (s : State) (message : String) : State := { s with message := some message }

def withData (s : State) (data : StateData) : State := { s with data := some data }

def pending (time : Timestamp) : State := ofType time .pending

def running (time : Timestamp) : State := ofType time .running

def retrying (time : Timestamp) : State := ofType time .retrying

def completed (time : Timestamp) : State := ofType time .completed

/-- Completed with a value. -/
def completedWith (time : Timestamp) (value : Json) : State :=
  (completed time).withData (.result value)

def failed (time : Timestamp) (message : String) (error : ErrorPayload) : State :=
  ((ofType time .failed).withMessage message).withData (.error error)

def crashed (time : Timestamp) (message : String) : State :=
  (ofType time .crashed).withMessage message

def isPending (s : State) : Bool := s.type == .pending

def isRunning (s : State) : Bool := s.type.isRunning

def isFinal (s : State) : Bool := s.type.isFinal

/-- Name, type and message in one line. -/
def text (s : State) : String :=
  let head := s.name ++ "(" ++ s.type.text ++ ")"
  match s.message with
  | some message => head ++ ": " ++ message
  | none => head

/-- The error a state carries. -/
def errorPayload (s : State) : Option ErrorPayload :=
  match s.data with
  | some (.error payload) => some payload
  | _ => none

/-- What the state of a run comes to. When failures are to be raised, a failed or crashed run is an
error described by the state's message, else by its payload, else by its name, and so is a run that
is not over. Otherwise the state's data stands whatever its type. -/
def resolve (s : State) (raiseOnFailure : Bool) : Except RunError (Option StateData) :=
  if raiseOnFailure ∧ (s.type = .failed ∨ s.type = .crashed) then
    let message := s.message.getD ((s.errorPayload.map ErrorPayload.text).getD s.name)
    .error (.failed s.type message s.errorPayload)
  else if raiseOnFailure ∧ !s.isFinal then .error (.unfinished s.type)
  else .ok s.data

end State

end RunEngine
