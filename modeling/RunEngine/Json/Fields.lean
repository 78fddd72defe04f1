import RunEngine.Json.Source

/-!
# Taking data out of a JSON text

How the pieces of a record are read from a `Source`: scalars, lists, maps, optional values, names
of alternatives, and the fields of a record.

A record is an object whose members are its fields, in any order and each at most once; members
with other names are skipped unread. It may also be an array of the fields in order, where fields
at the end may be missing. Every reader takes the number of levels of nesting it may still enter.
-/

namespace RunEngine.Source

variable {α : Type}

/-! ## Scalars -/

def string? : Source → Option String
  | .string s => s
  | _ => none

def bool? : Source → Option Bool
  | .bool b => some b
  | _ => none

/-- An integer that fits an unsigned 32-bit word. -/
def uint32? : Source → Option UInt32
  | .number (some (.int n)) =>
    if 0 ≤ n ∧ n < 0x100000000 then some (UInt32.ofNat n.toNat) else none
  | _ => none

/-- A float, or the float nearest to an integer. -/
def float? : Source → Option Binary64
  | .number (some (.float x)) => some x
  | .number (some (.int n)) => some (.ofInt n)
  | _ => none

/-! ## Containers -/

/-- `null`, or what `f` reads. -/
def option? (f : Source → Option α) : Source → Option (Option α)
  | .null => some none
  | s => (f s).map some

/-- An array of what `f` reads. -/
def list? (levels : Nat) (f : Nat → Source → Option α) : Source → Option (List α)
  | .array items => if levels = 0 then none else items.mapM (f (levels - 1))
  | _ => none

/-- One member of a map. -/
def binding? (f : Source → Option α) : Option String × Source → Option (String × α)
  | (some name, s) => (f s).map (name, ·)
  | (none, _) => none

/-- An object whose members are the entries of a map; of members with one name the last stands. -/
def dict? (levels : Nat) (f : Nat → Source → Option α) : Source → Option (Dict α)
  | .object members =>
    if levels = 0 then none else (members.mapM (binding? (f (levels - 1)))).map .ofList
  | _ => none

/-- The name of an alternative without data: a string, or an object whose one member is `null`. -/
def variant? (levels : Nat) : Source → Option String
  | .string s => s
  | .object [(name, .null)] => if levels = 0 then none else name
  | _ => none

/-! ## Records -/

/-- The member of that name, if there is one. A record with several is refused. -/
def unique? (name : String) (members : List (Option String × Source)) :
    Option (Option Source) :=
  match members.filter fun m => m.1 == some name with
  | [] => some none
  | [(_, s)] => some (some s)
  | _ => none

/-- The fields of a record, in the order of `names`, the missing ones absent. -/
def fields? (levels : Nat) (names : List String) : Source → Option (List (Option Source))
  | .object members =>
    if levels = 0 ∨ members.any (·.1.isNone) then none
    else names.mapM fun name => unique? name members
  | .array items =>
    if levels = 0 ∨ names.length < items.length then none
    else some (items.map some ++ List.replicate (names.length - items.length) none)
  | _ => none

/-- A field that must be there. -/
def required (f : Source → Option α) (field : Option Source) : Option α := field.bind f

/-- A field that has a default. -/
def defaulted (default : α) (f : Source → Option α) : Option Source → Option α
  | none => some default
  | some s => f s

end RunEngine.Source
