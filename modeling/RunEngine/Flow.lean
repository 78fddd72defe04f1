import RunEngine.ErrorCapture
import RunEngine.RunName

/-!
# Flows

A `Flow` is the declaration of a unit of work: its name, the parameters it takes, and how its runs
are named, retried and reported. What a flow does is kept apart from it, as the body that a run is
given.
-/

namespace RunEngine

/-- How the tasks of a run are to be executed. The engine hands it on to the body. -/
inductive TaskRunner where
  | concurrent
  | sequential
  deriving DecidableEq, Inhabited

def TaskRunner.text : TaskRunner → String
  | concurrent => "concurrent"
  | sequential => "sequential"

/-- The declaration of a flow. Until it is given a schema, a flow takes any parameters. -/
structure Flow where
  name : String
  version : Option String := none
  description : Option String := none
  schema : Schema := { allowExtra := true }
  runName : Option RunName := none
  /-- Whether parameters are checked against the schema. -/
  validates : Bool := true
  /-- Whether lines that the body prints go to the run's log. -/
  logPrints : Bool := false
  taskRunner : TaskRunner := .concurrent
  /-- How many retries an orchestrator may grant after failed attempts. -/
  retries : UInt32 := 0
  tags : List String := []
  /-- What failed states keep of the error. -/
  capture : ErrorCapture := {}

namespace Flow

/-- The key of a flow as a task of an enclosing run. -/
def taskKey (f : Flow) : String :=
  match f.version with
  | some version => f.name ++ "@" ++ version
  | none => f.name

/-- The name of a run with these parameters, if the flow names its runs. -/
def resolveRunName (f : Flow) (parameters : Parameters) : Except RunNameError (Option String) :=
  match f.runName with
  | none => .ok none
  | some name => (name.resolve parameters).map some

end Flow

end RunEngine
