import RunEngine.Json.Basic

/-!
# JSON texts as written

A `Source` is the tree of a JSON text before it is judged as data. It keeps members in the order
of the text, duplicates included, and marks what is well-formed syntax but stands for nothing: a
number outside the range of floats, a string with half of a surrogate pair. A reader that skips a
part of the text does not look at these; one that wants it as a value refuses them.

`Source.value?` gives the value a source stands for. Of members with one name the last stands, and
nesting deeper than a given number of levels is refused; a text may be nested `maxDepth` deep.
-/

namespace RunEngine

/-- The syntax tree of a JSON text. -/
inductive Source where
  | null
  | bool (value : Bool)
  /-- A number, absent when it is outside the range of floats. -/
  | number (value : Option Number)
  /-- A string, absent when it names half of a surrogate pair. -/
  | string (value : Option String)
  | array (items : List Source)
  | object (members : List (Option String × Source))

namespace Source

instance : Inhabited Source := ⟨.null⟩

/-- How deep arrays and objects may be nested in a text. -/
def maxDepth : Nat := 127

mutual

/-- The value of a source with at most `levels` levels of arrays and objects. -/
def value? (levels : Nat) : Source → Option Json
  | .null => some .null
  | .bool b => some (.bool b)
  | .number n => n.map .number
  | .string s => s.map .string
  | .array items =>
    if levels = 0 then none else (items? (levels - 1) items).map .array
  | .object members =>
    if levels = 0 then none
    else (members? (levels - 1) members).map fun entries => .ofDict (.ofList entries)

/-- The values of array items. -/
def items? (levels : Nat) : List Source → Option (List Json)
  | [] => some []
  | item :: rest => do
    let value ← value? levels item
    let values ← items? levels rest
    return value :: values

/-- The names and values of object members, in the order of the text. -/
def members? (levels : Nat) : List (Option String × Source) → Option (List (String × Json))
  | [] => some []
  | (name, source) :: rest => do
    let name ← name
    let value ← value? levels source
    let values ← members? levels rest
    return (name, value) :: values

end

mutual

/-- A value written down as a source. -/
def ofJson : Json → Source
  | .null => .null
  | .bool b => .bool b
  | .number n => .number (some n)
  | .string s => .string (some s)
  | .array items => .array (ofItems items)
  | .object members => .object (ofMembers members)

def ofItems : List Json → List Source
  | [] => []
  | item :: rest => ofJson item :: ofItems rest

def ofMembers : List (String × Json) → List (Option String × Source)
  | [] => []
  | (name, value) :: rest => (some name, ofJson value) :: ofMembers rest

end

end Source

end RunEngine
