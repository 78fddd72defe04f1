import RunEngine.Dict
import RunEngine.Binary64.Basic

/-!
# JSON values

Numbers keep the distinction between integers and floats, so `1` and `1.0` are different values.
An object is a list of members; objects that stand for maps list them in ascending order of their
names (`Json.ofDict`), records in the order of their fields.
-/

namespace RunEngine

/-- A JSON number. -/
inductive Number where
  | int (value : Int)
  | float (value : Binary64)
  deriving DecidableEq

/-- A JSON value. -/
inductive Json where
  | null
  | bool (value : Bool)
  | number (value : Number)
  | string (value : String)
  | array (items : List Json)
  | object (members : List (String × Json))

namespace Json

instance : Inhabited Json := ⟨.null⟩

/-! ## Decidable equality -/

mutual

/-- Structural equality of values. -/
def same : Json → Json → Bool
  | .null, .null => true
  | .bool a, .bool b => a == b
  | .number a, .number b => a == b
  | .string a, .string b => a == b
  | .array as, .array bs => sameItems as bs
  | .object as, .object bs => sameMembers as bs
  | _, _ => false

/-- Structural equality of item lists. -/
def sameItems : List Json → List Json → Bool
  | [], [] => true
  | a :: as, b :: bs => same a b && sameItems as bs
  | _, _ => false

/-- Structural equality of member lists. -/
def sameMembers : List (String × Json) → List (String × Json) → Bool
  | [], [] => true
  | (j, a) :: as, (k, b) :: bs => j == k && same a b && sameMembers as bs
  | _, _ => false

end

mutual

theorem same_iff : ∀ a b : Json, same a b = true ↔ a = b
  | .null, b => by cases b <;> simp [same]
  | .bool _, b => by cases b <;> simp [same]
  | .number _, b => by cases b <;> simp [same]
  | .string _, b => by cases b <;> simp [same]
  | .array as, b => by
    cases b <;> simp [same]
    exact sameItems_iff as _
  | .object as, b => by
    cases b <;> simp [same]
    exact sameMembers_iff as _

theorem sameItems_iff : ∀ as bs : List Json, sameItems as bs = true ↔ as = bs
  | [], bs => by cases bs <;> simp [sameItems]
  | a :: as, bs => by
    cases bs with
    | nil => simp [sameItems]
    | cons b bs => simp [sameItems, same_iff a b, sameItems_iff as bs]

theorem sameMembers_iff : ∀ as bs : List (String × Json), sameMembers as bs = true ↔ as = bs
  | [], bs => by cases bs <;> simp [sameMembers]
  | (j, a) :: as, bs => by
    cases bs with
    | nil => simp [sameMembers]
    | cons b bs =>
      obtain ⟨k, b⟩ := b
      simp [sameMembers, same_iff a b, sameMembers_iff as bs, and_assoc]

end

instance : DecidableEq Json := fun a b => decidable_of_iff _ (same_iff a b)

/-! ## Building and taking apart -/

/-- An integer as a JSON value. -/
def int (n : Int) : Json := .number (.int n)

/-- A natural number as a JSON value. -/
def nat (n : Nat) : Json := .number (.int n)

/-- A map as an object, its members in ascending order. -/
def ofDict (d : Dict Json) : Json := .object d.entries

/-- An optional value, `null` when absent. -/
def ofOption {α : Type} (f : α → Json) : Option α → Json
  | none => .null
  | some a => f a

/-- A list of texts as an array. -/
def ofStrings (texts : List String) : Json := .array (texts.map .string)

def isNull : Json → Bool
  | .null => true
  | _ => false

/-- The text of a string value. -/
def string? : Json → Option String
  | .string s => some s
  | _ => none

/-- The member of that name, if the value is an object that has one. -/
def member? (name : String) : Json → Option Json
  | .object members => Dict.lookup name members
  | _ => none

end Json

end RunEngine
