import RunEngine.Error

/-!
# How errors are kept on states

A failed attempt leaves a payload on the state of its run: the class of the error, its text and,
unless the flow turned that off, the texts of its causes.
-/

namespace RunEngine

/-- What a payload keeps of an error. -/
structure ErrorCapture where
  /-- Whether the causes are kept. -/
  causes : Bool := true
  deriving DecidableEq, Inhabited

namespace ErrorCapture

/-- The payload of an error. -/
def payload (c : ErrorCapture) (f : Failure) : ErrorPayload :=
  { kind := f.kind
    message := f.text
    causes := if c.causes then f.chain.drop 1 else [] }

/-- The failed state of an error, its message being the payload's text after `message`. -/
def failedState (c : ErrorCapture) (time : Timestamp) (f : Failure) (message : String) : State :=
  let payload := c.payload f
  .failed time (message ++ " " ++ payload.text) payload

end ErrorCapture

end RunEngine
