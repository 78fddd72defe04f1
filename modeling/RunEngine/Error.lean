import RunEngine.State
import RunEngine.Text.Quoted
import RunEngine.Uuid

/-!
# Errors

Every kind of error that can leave an operation, with the text it is reported by. An error of user
code is a `Failure`: an error of any of the other kinds or a plain message, with the contexts that
were wrapped around it.
-/

namespace RunEngine

/-! ## Parameters and run names -/

/-- One thing wrong with the parameters of a flow. -/
inductive ParameterIssue where
  | missing (name : String)
  | unexpected (name : String)
  | wrongType (name expected found : String)
  deriving DecidableEq

namespace ParameterIssue

private def ticked (name : String) : String := "`" ++ name ++ "`"

def text : ParameterIssue → String
  | missing name => "missing required parameter " ++ ticked name
  | unexpected name => "unexpected parameter " ++ ticked name
  | wrongType name expected found =>
    "parameter " ++ ticked name ++ " expected " ++ expected ++ ", got " ++ found

end ParameterIssue

/-- Everything wrong with the parameters of a flow. -/
structure ValidationError where
  issues : List ParameterIssue
  deriving DecidableEq

def ValidationError.text (e : ValidationError) : String :=
  toString e.issues.length ++ " parameter validation error(s): " ++
    "; ".intercalate (e.issues.map ParameterIssue.text)

/-- Why a flow's run has no name of its own. -/
inductive RunNameError where
  /-- A placeholder names a parameter that was not supplied. -/
  | unknownParameter (name : String)
  /-- A placeholder of the template does not end. -/
  | unclosed (template : String)
  /-- A closing brace of the template ends no placeholder. -/
  | unmatched (template : String)
  /-- The resolver failed with a message. -/
  | resolver (message : String)
  deriving DecidableEq

namespace RunNameError

def text : RunNameError → String
  | unknownParameter name => "run name template references unknown parameter `" ++ name ++ "`"
  | unclosed template =>
    "run name template is malformed: unclosed placeholder in " ++ Text.quoted template
  | unmatched template =>
    "run name template is malformed: unmatched '\x7d' in " ++ Text.quoted template
  | resolver message => "run name resolver failed: " ++ message

end RunNameError

/-! ## The orchestration API -/

/-- What went wrong between a client and the API, apart from the answer. -/
inductive NetworkFault where
  /-- The request cannot be written down, to this URL if it is one. -/
  | unsendable (url : Option String)
  /-- The connection ended before the response. -/
  | dropped (url : String)
  /-- The response ended before its body did. -/
  | truncated
  deriving DecidableEq

namespace NetworkFault

/-- What a failure to send a request to `url` is called. -/
def sending (url : String) : String := "error sending request for url (" ++ url ++ ")"

def text : NetworkFault → String
  | unsendable none => "builder error"
  | unsendable (some url) => "builder error for url (" ++ url ++ ")"
  | dropped url => sending url
  | truncated => "error decoding response body"

end NetworkFault

/-- An error of a client of the orchestration API. -/
inductive ClientError where
  /-- The API could not be reached, or is not healthy. -/
  | unreachable (reason : String)
  /-- The API answered with a status other than success. -/
  | api (status : Nat) (message : String)
  | notFound (what : String) (id : Uuid)
  | network (fault : NetworkFault)
  /-- The answer is not of the expected form. -/
  | decode (detail : String)
  deriving DecidableEq

namespace ClientError

def text : ClientError → String
  | unreachable reason => "orchestration API unreachable: " ++ reason
  | api status message => "API error (status " ++ toString status ++ "): " ++ message
  | notFound what id => what ++ " " ++ id.toText ++ " not found"
  | network fault => "network error: " ++ fault.text
  | decode detail => "failed to decode API response: " ++ detail

def isUnreachable : ClientError → Bool
  | unreachable _ => true
  | _ => false

/-- The texts of what caused the error. -/
def sources : ClientError → List String
  | network fault => [fault.text]
  | _ => []

end ClientError

/-! ## The engine -/

/-- An error that ends the driving of a run. -/
inductive EngineError where
  /-- The client could not connect. -/
  | connection (cause : ClientError)
  /-- A later call of the client failed. -/
  | client (cause : ClientError)
  | notStarted
  | missingFlowRun
  /-- The orchestrator ordered the run to stop. -/
  | aborted (reason : String)
  /-- The run is over, or not, in a way that yields no value. -/
  | run (error : RunError)
  | config (message : String)
  deriving DecidableEq

namespace EngineError

def text : EngineError → String
  | connection cause => "failed to connect to orchestration API: " ++ cause.text
  | client cause => "orchestration API error: " ++ cause.text
  | notStarted => "Engine has not started."
  | missingFlowRun => "engine has no flow run"
  | aborted reason => "orchestration aborted the run: " ++ reason
  | run error => error.text
  | config message => "configuration error: " ++ message

/-- Whether the error comes from an API that cannot be reached. -/
def isConnection : EngineError → Bool
  | connection _ => true
  | client cause => cause.isUnreachable
  | _ => false

/-- The texts of what caused the error. -/
def sources : EngineError → List String
  | connection cause | client cause => cause.text :: cause.sources
  | _ => []

end EngineError

/-! ## User code -/

/-- What an error of user code is, without its contexts. -/
inductive Fault where
  | plain (message : String)
  | validation (error : ValidationError)
  | run (error : RunError)
  | client (error : ClientError)
  | engine (error : EngineError)
  /-- Something that needs a run was asked for outside of one. -/
  | noContext
  deriving DecidableEq

namespace Fault

def text : Fault → String
  | plain message => message
  | validation error => error.text
  | run error => error.text
  | client error => error.text
  | engine error => error.text
  | noContext => "no flow run context is active"

/-- The texts of what caused the fault. -/
def sources : Fault → List String
  | client error => error.sources
  | engine error => error.sources
  | _ => []

/-- The class of errors the fault belongs to. -/
def kind : Fault → String
  | validation _ => "ParameterValidationError"
  | run _ => "FlowRunError"
  | _ => "Error"

end Fault

/-- An error of user code. -/
structure Failure where
  fault : Fault
  /-- What was being done, the innermost context first. -/
  contexts : List String := []
  deriving DecidableEq

namespace Failure

/-- A plain message. -/
def plain (message : String) : Failure := { fault := .plain message }

/-- The outermost text, and after it the text of each cause in turn. -/
def chain (f : Failure) : List String := f.contexts.reverse ++ f.fault.text :: f.fault.sources

/-- The outermost context, or the text of the fault itself. -/
def text (f : Failure) : String := f.contexts.getLast?.getD f.fault.text

/-- The class of the fault; contexts do not change it. -/
def kind (f : Failure) : String := f.fault.kind

end Failure

end RunEngine
