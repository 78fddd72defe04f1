import RunEngine.Binary64.Basic

/-!
# TOML documents

A document is a sequence of statements: bindings of keys to values, and headers that open a table
for the bindings after them. `Draft.add` puts one statement into the tables built so far and
`assemble` does so with a whole document.

No statement may define a name twice, and what may still be added to a table depends on how the
table came to be, its `Origin`. Headers pass through every table but an inline one. Dotted keys pass
through tables that no header has opened, and bind a name only in a table that dotted keys made.
Where a path meets an array of tables it goes on into the last of them.
-/

namespace RunEngine.Toml

/-- How a table came to be. -/
inductive Origin where
  /-- Opened by a header of its own, as the root is from the start. -/
  | header
  /-- Passed through by a longer header. -/
  | passage
  /-- Passed through by a dotted key. -/
  | dotted
  /-- Written out as a value. -/
  | inline
  deriving DecidableEq, Inhabited

inductive Value where
  | string (text : String)
  | integer (value : Int)
  | float (value : Binary64)
  | boolean (value : Bool)
  /-- A date, a time of day, or both, as written. -/
  | moment (text : String)
  | array (items : List Value)
  | table (origin : Origin) (entries : List (String × Value))
  /-- The tables opened by headers in double brackets: the last one, and those before it. -/
  | tables (last : List (String × Value)) (before : List (List (String × Value)))

instance : Inhabited Value := ⟨.boolean false⟩

/-- A dotted key: the last of its names, and the path of those before it. -/
structure Key where
  path : List String
  name : String
  deriving DecidableEq, Inhabited

/-! ## Tables -/

structure Table where
  origin : Origin := .header
  entries : List (String × Value) := []
  deriving Inhabited

namespace Table

/-- The value of a name. -/
def get? (t : Table) (name : String) : Option Value :=
  (t.entries.find? fun entry => entry.1 == name).map (·.2)

/-- The table with a value for a name, in place of the one it had. -/
def set (t : Table) (name : String) (value : Value) : Table :=
  { t with entries := (name, value) :: t.entries.filter fun entry => entry.1 != name }

/-- Change the table at the end of a path. The path goes through tables whose origin `passes`, and
makes those that are not there yet, with origin `fresh`. -/
def alter (fresh : Origin) (passes : Origin → Bool) (change : Table → Option Table) :
    (path : List String) → Table → Option Table
  | [], t => change t
  | name :: path, t =>
    match t.get? name with
    | none => do
      let inner ← alter fresh passes change path ⟨fresh, []⟩
      return t.set name (.table inner.origin inner.entries)
    | some (.table origin entries) => do
      if passes origin then
        let inner ← alter fresh passes change path ⟨origin, entries⟩
        return t.set name (.table inner.origin inner.entries)
      else none
    | some (.tables last before) => do
      let inner ← alter fresh passes change path ⟨.header, last⟩
      return t.set name (.tables inner.entries before)
    | some _ => none

/-- Change the table that a header names. -/
def alterAt (path : List String) (change : Table → Option Table) (t : Table) : Option Table :=
  t.alter .passage (fun origin => origin != .inline) change path

/-- Bind a key that has no value yet. -/
def bind (key : Key) (value : Value) (t : Table) : Option Table :=
  t.alter .dotted (fun origin => origin == .passage || origin == .dotted) bindName key.path
where
  bindName (inner : Table) : Option Table :=
    if !key.path.isEmpty && inner.origin != .dotted || (inner.get? key.name).isSome then none
    else some (inner.set key.name value)

/-- The inline table with these bindings. -/
def ofBindings? (bindings : List (Key × Value)) : Option Table :=
  bindings.foldlM (fun t (key, value) => t.bind key value) ⟨.inline, []⟩

/-- Open the table of a header in single brackets. -/
def openTable (key : Key) (t : Table) : Option Table :=
  t.alterAt key.path fun inner =>
    match inner.get? key.name with
    | none => some (inner.set key.name (.table .header []))
    | some (.table .passage entries) => some (inner.set key.name (.table .header entries))
    | some _ => none

/-- Open the next table of a header in double brackets. -/
def openElement (key : Key) (t : Table) : Option Table :=
  t.alterAt key.path fun inner =>
    match inner.get? key.name with
    | none => some (inner.set key.name (.tables [] []))
    | some (.tables last before) => some (inner.set key.name (.tables [] (last :: before)))
    | some _ => none

end Table

/-! ## Statements -/

inductive Statement where
  | binding (key : Key) (value : Value)
  /-- A header in single brackets. -/
  | table (key : Key)
  /-- A header in double brackets. -/
  | element (key : Key)

/-- The tables built so far, and the path of the one that bindings go to. -/
structure Draft where
  root : Table := {}
  current : List String := []

namespace Draft

/-- The draft with one more statement, unless it defines something twice. -/
def add (d : Draft) : Statement → Option Draft
  | .binding key value => do
    return { d with root := ← d.root.alterAt d.current (·.bind key value) }
  | .table key => do return ⟨← d.root.openTable key, key.path ++ [key.name]⟩
  | .element key => do return ⟨← d.root.openElement key, key.path ++ [key.name]⟩

end Draft

/-- The root table of a document. -/
def assemble (statements : List Statement) : Option Table :=
  (statements.foldlM Draft.add {}).map (·.root)

end RunEngine.Toml
