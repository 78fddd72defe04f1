import RunEngine.Binary64.Reader
import RunEngine.Error
import RunEngine.Json.Printer
import RunEngine.Text.Blank
import RunEngine.Text.Digit
import RunEngine.Text.Quoted

/-!
# Flow parameters

A flow declares its parameters in a `Schema`: a list of specs, each with a name, a kind and perhaps
a default, and whether other parameters are allowed. `Schema.validate` checks supplied parameters
against it. It fills in defaults, turns numeric texts into numbers where a number is declared, and
reports every issue rather than the first.
-/

namespace RunEngine

/-- The parameters of a run, by name. -/
abbrev Parameters := Dict Json

/-! ## Kinds -/

inductive ParamKind where
  | any
  | int
  | float
  | str
  | bool
  | list
  | object
  deriving DecidableEq, Inhabited

namespace ParamKind

def text : ParamKind → String
  | any => "any"
  | int => "int"
  | float => "float"
  | str => "str"
  | bool => "bool"
  | list => "list"
  | object => "object"

def all : List ParamKind := [any, int, float, str, bool, list, object]

def ofText? (text : String) : Option ParamKind := all.find? fun k => k.text == text

theorem ofText?_text (k : ParamKind) : ofText? k.text = some k := by cases k <;> decide

end ParamKind

/-! ## Reading numbers -/

/-- The integers of JSON: signed or unsigned 64-bit words. -/
def isWord (n : Int) : Bool := -0x8000000000000000 ≤ n && n < 0x10000000000000000

/-- A signed 64-bit integer: an optional sign and decimal digits. -/
def readInt64 (cs : List Char) : Option Int := do
  let n ← match cs with
    | '-' :: rest => (Text.natural? 10 rest).map fun n => -(n : Int)
    | '+' :: rest => (Text.natural? 10 rest).map fun n => (n : Int)
    | _ => (Text.natural? 10 cs).map fun n => (n : Int)
  if -0x8000000000000000 ≤ n ∧ n < 0x8000000000000000 then some n else none

/-- A float as a number, unless it is infinite or a NaN. -/
def Json.finite? (x : Binary64) : Option Json :=
  if x.isFinite then some (.number (.float x)) else none

/-! ## Specs -/

/-- One declared parameter. -/
structure ParameterSpec where
  name : String
  kind : ParamKind
  /-- The value when none is supplied. Without one the parameter is required. -/
  default : Option Json
  deriving DecidableEq

namespace ParameterSpec

def isRequired (s : ParameterSpec) : Bool := s.default.isNone

/-- `null` stands for any value of kind `any`, and for the value of an optional parameter. -/
def admitsNull (s : ParameterSpec) : Bool := s.kind == .any || !s.isRequired

/-- The value as one of the declared kind. -/
def coerce (s : ParameterSpec) (value : Json) : Option Json :=
  match s.kind, value with
  | _, .null => if s.admitsNull then some .null else none
  | .any, v => some v
  | .int, .number (.int n) => if isWord n then some (.int n) else none
  | .int, .string t => (readInt64 (Text.trim t.toList)).map .int
  | .float, .number (.int n) => Json.finite? (.ofInt n)
  | .float, .number (.float x) => Json.finite? x
  | .float, .string t => (Binary64.read (Text.trim t.toList)).bind Json.finite?
  | .str, .string t => some (.string t)
  | .bool, .bool b => some (.bool b)
  | .bool, .string t =>
    if t = "true" then some (.bool true) else if t = "false" then some (.bool false) else none
  | .list, .array items => some (.array items)
  | .object, .object members => some (.object members)
  | _, _ => none

end ParameterSpec

/-- A value as an issue names it. -/
def Json.describe : Json → String
  | .null => "null"
  | .bool b => "bool " ++ (if b then "true" else "false")
  | .number n => "number " ++ n.toText
  | .string s => "string " ++ Text.quoted s
  | .array _ => "list"
  | .object _ => "object"

/-! ## Schemas -/

/-- The parameters a flow accepts, in order of declaration. -/
structure Schema where
  params : List ParameterSpec := []
  /-- Whether parameters that are not declared are passed through. -/
  allowExtra : Bool := false
  deriving DecidableEq

namespace Schema

/-- The schema with one more required parameter. -/
def addRequired (s : Schema) (name : String) (kind : ParamKind) : Schema :=
  { s with params := s.params ++ [⟨name, kind, none⟩] }

/-- The schema with one more optional parameter. -/
def addOptional (s : Schema) (name : String) (kind : ParamKind) (default : Json) : Schema :=
  { s with params := s.params ++ [⟨name, kind, some default⟩] }

/-- Whether some spec has that name. -/
def declares (s : Schema) (name : String) : Bool := s.params.any fun spec => spec.name == name

end Schema

/-! ## Validation -/

/-- The value a declared parameter has: the one supplied, coerced, or the default. -/
def ParameterSpec.settle (s : ParameterSpec) (supplied : Parameters) :
    Except ParameterIssue Json :=
  match supplied.get? s.name with
  | some value =>
    match s.coerce value with
    | some coerced => .ok coerced
    | none => .error (.wrongType s.name s.kind.text value.describe)
  | none =>
    match s.default with
    | some default => .ok default
    | none => .error (.missing s.name)

namespace Schema

/-- The supplied parameters that are not declared, in order of their names. -/
def extras (s : Schema) (supplied : Parameters) : List (String × Json) :=
  supplied.entries.filter fun e => !s.declares e.1

/-- Every issue: those of the declared parameters in order of declaration, then the parameters
that should not be there in order of their names. -/
def issues (s : Schema) (supplied : Parameters) : List ParameterIssue :=
  let unsettled := s.params.filterMap fun spec =>
    match spec.settle supplied with
    | .error issue => some issue
    | .ok _ => none
  let unexpected := if s.allowExtra then [] else
    (s.extras supplied).map fun e => .unexpected e.1
  unsettled ++ unexpected

/-- The value of every declared parameter that has one. -/
def settled (s : Schema) (supplied : Parameters) : List (String × Json) :=
  s.params.filterMap fun spec =>
    match spec.settle supplied with
    | .ok value => some (spec.name, value)
    | .error _ => none

/-- The parameters a flow body gets: declared ones with their values, of several declarations of
one name the last, and the others untouched. -/
def validate (s : Schema) (supplied : Parameters) : Except ValidationError Parameters :=
  match s.issues supplied with
  | [] => .ok (.ofList (s.settled supplied ++ s.extras supplied))
  | issues => .error ⟨issues⟩

end Schema

end RunEngine
