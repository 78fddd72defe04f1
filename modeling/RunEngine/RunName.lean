import RunEngine.Parameters

/-!
# Names of runs

A flow may say how its runs are named: by a template over the parameters or by a function of them.

In a template a name between braces is a placeholder. It stands for the parameter of that name,
white space around the name aside, and braces in the parameter's value have no meaning. Two equal
braces in a row outside a placeholder stand for one. The leftmost fault of a template is the one
that is reported.
-/

namespace RunEngine

/-- How a flow's runs are named. -/
inductive RunName where
  | template (text : String)
  | resolver (resolve : Parameters → Except Failure String)

namespace RunName

/-- A value as part of a name: a string as it is, any other value as JSON. -/
def valueText : Json → String
  | .string s => s
  | value => value.compact

/-- The value of a placeholder written with `key` between its braces. -/
def placeholder (parameters : Parameters) (key : List Char) : Except RunNameError (List Char) :=
  let name := String.ofList (Text.trim key)
  match parameters.get? name with
  | some value => .ok (valueText value).toList
  | none => .error (.unknownParameter name)

mutual

/-- The name written by the rest of a template, outside of any placeholder. -/
def scan (template : String) (parameters : Parameters) :
    List Char → Except RunNameError (List Char)
  | [] => .ok []
  | '\x7b' :: '\x7b' :: rest => (scan template parameters rest).map ('\x7b' :: ·)
  | '\x7d' :: '\x7d' :: rest => (scan template parameters rest).map ('\x7d' :: ·)
  | '\x7b' :: rest => scanKey template parameters [] rest
  | '\x7d' :: _ => .error (.unmatched template)
  | c :: rest => (scan template parameters rest).map (c :: ·)

/-- The name written by the rest of a template, inside a placeholder that began with `key`. -/
def scanKey (template : String) (parameters : Parameters) (key : List Char) :
    List Char → Except RunNameError (List Char)
  | [] => .error (.unclosed template)
  | '\x7d' :: rest => do
    let value ← placeholder parameters key
    let name ← scan template parameters rest
    return value ++ name
  | c :: rest => scanKey template parameters (key ++ [c]) rest

end

/-- The name a template gives. -/
def render (template : String) (parameters : Parameters) : Except RunNameError String :=
  (scan template parameters template.toList).map String.ofList

/-- The name of a run with these parameters. -/
def resolve (parameters : Parameters) : RunName → Except RunNameError String
  | .template text => render text parameters
  | .resolver f =>
    match f parameters with
    | .ok name => .ok name
    | .error failure => .error (.resolver failure.text)

end RunName

end RunEngine
