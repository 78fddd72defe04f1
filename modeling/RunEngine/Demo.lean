import RunEngine.CommandLine.Basic
import RunEngine.Program

/-!
# The demo flow

A flow that fails a given number of times before it succeeds. Then it greets in the log of its run,
and its value tells the greeting and the number of attempts.
-/

namespace RunEngine.Demo

open CommandLine (DemoOptions)

/-- The greeting among the parameters, if there is one. -/
def greeting (parameters : Parameters) : String :=
  match parameters.get? "greeting" with
  | some (.string text) => text
  | _ => "hello"

def flow (options : DemoOptions) : Flow :=
  { name := options.name
    description := some "Demo flow that fails a configurable number of times"
    schema :=
      { (({} : Schema).addOptional "greeting" .str (.string "hello")) with allowExtra := true }
    runName := some (.resolver fun parameters =>
      .ok (options.name ++ "-" ++ greeting parameters))
    retries := options.retries
    logPrints := true
    tags := ["demo"] }

def body (options : DemoOptions) : Body := fun invocations parameters =>
  let attempt := invocations + 1
  if attempt ≤ options.failTimes.toNat then
    .done (.error (.plain ("simulated failure on attempt " ++ toString attempt)))
  else
    let text := greeting parameters
    .attempt (.print (text ++ " from " ++ options.name)) id
      (.done (.ok (.object [("attempts", .nat attempt), ("greeting", .string text)])))

end RunEngine.Demo
