/-!
# Dictionaries in key order

A finite map from names to values, kept as its entries in ascending order of their names. Names
are compared by code points, which is the order of their UTF-8 bytes. The order is part of the
type, so two dictionaries with the same entries are equal, and a dictionary is always listed the
same way however it was filled.
-/

namespace RunEngine

universe u v

/-- Entries in strictly ascending order of their names. -/
abbrev Ascending {α : Type u} (entries : List (String × α)) : Prop :=
  entries.Pairwise fun a b => a.1 < b.1

/-- A finite map from names to values. -/
structure Dict (α : Type u) where
  entries : List (String × α)
  ascending : Ascending entries

namespace Dict

variable {α : Type u} {β : Type v}

/-- Two dictionaries with the same entries are equal. -/
theorem ext_entries : ∀ {a b : Dict α}, a.entries = b.entries → a = b
  | ⟨_, _⟩, ⟨_, _⟩, rfl => rfl

instance [DecidableEq α] : DecidableEq (Dict α) := fun a b =>
  decidable_of_iff (a.entries = b.entries) ⟨ext_entries, fun h => h ▸ rfl⟩

/-- The dictionary without entries. -/
def empty : Dict α := ⟨[], List.Pairwise.nil⟩

instance : EmptyCollection (Dict α) := ⟨empty⟩

instance : Inhabited (Dict α) := ⟨empty⟩

/-! ## Looking up -/

/-- The value of the first entry under `name`. -/
def lookup (name : String) : List (String × α) → Option α
  | [] => none
  | (k, v) :: rest => if k = name then some v else lookup name rest

/-- The value under `name`. -/
def get? (d : Dict α) (name : String) : Option α := lookup name d.entries

/-- The names, in ascending order. -/
def keys (d : Dict α) : List String := d.entries.map (·.1)

/-- Whether there is an entry under `name`. -/
def contains (d : Dict α) (name : String) : Bool := (d.get? name).isSome

/-! ## Inserting -/

/-- Put `name` with `value` in its place, replacing the value it had. -/
def insertEntry (name : String) (value : α) : List (String × α) → List (String × α)
  | [] => [(name, value)]
  | (k, v) :: rest =>
    if name < k then (name, value) :: (k, v) :: rest
    else if name = k then (name, value) :: rest
    else (k, v) :: insertEntry name value rest

theorem mem_insertEntry {name : String} {value : α} {e : String × α} :
    ∀ {entries : List (String × α)}, e ∈ insertEntry name value entries →
      e = (name, value) ∨ e ∈ entries
  | [], h => by simpa [insertEntry] using h
  | (k, v) :: rest, h => by
    simp only [insertEntry] at h
    split at h
    · simpa using h
    · split at h
      · rcases List.mem_cons.1 h with h | h
        · exact .inl h
        · exact .inr (List.mem_cons_of_mem _ h)
      · rcases List.mem_cons.1 h with h | h
        · exact .inr (h ▸ List.mem_cons_self ..)
        · exact (mem_insertEntry h).imp_right (List.mem_cons_of_mem _)

theorem ascending_insertEntry (name : String) (value : α) :
    ∀ {entries : List (String × α)}, Ascending entries →
      Ascending (insertEntry name value entries)
  | [], _ => by simp [insertEntry]
  | (k, v) :: rest, h => by
    obtain ⟨hk, hrest⟩ := List.pairwise_cons.1 h
    simp only [insertEntry]
    split
    · rename_i hlt
      refine List.pairwise_cons.2 ⟨fun e he => ?_, h⟩
      rcases List.mem_cons.1 he with rfl | he
      · exact hlt
      · exact String.lt_trans hlt (hk e he)
    · split
      · rename_i heq
        subst heq
        exact List.pairwise_cons.2 ⟨hk, hrest⟩
      · rename_i hlt hne
        refine List.pairwise_cons.2 ⟨fun e he => ?_, ascending_insertEntry name value hrest⟩
        rcases mem_insertEntry he with rfl | he
        · have := String.not_lt.1 hlt
          exact String.not_le.1 fun hle => hne (String.le_antisymm hle this)
        · exact hk e he

/-- The dictionary with `value` under `name`. -/
def insert (d : Dict α) (name : String) (value : α) : Dict α :=
  ⟨insertEntry name value d.entries, ascending_insertEntry name value d.ascending⟩

/-- The dictionary of these entries; of entries under one name the last stands. -/
def ofList (entries : List (String × α)) : Dict α :=
  entries.foldl (fun d e => d.insert e.1 e.2) empty

/-- The dictionary with every value changed by `f`. -/
def map (f : α → β) (d : Dict α) : Dict β :=
  ⟨d.entries.map fun e => (e.1, f e.2), List.pairwise_map.2 (d.ascending.imp id)⟩

/-! ## The view through `get?` -/

theorem lookup_insertEntry (name other : String) (value : α) :
    ∀ {entries : List (String × α)},
      lookup other (insertEntry name value entries) =
        if name = other then some value else lookup other entries
  | [] => by simp [insertEntry, lookup]
  | (k, v) :: rest => by
    simp only [insertEntry]
    split
    · simp [lookup]
    · split
      · rename_i heq
        subst heq
        by_cases h : name = other <;> simp [lookup, h]
      · rename_i _ hne
        simp only [lookup, lookup_insertEntry name other value]
        by_cases hk : k = other
        · subst hk
          simp [hne]
        · simp [hk]

/-- After an insertion the name inserted has the new value and every other name its old one. -/
@[simp] theorem get?_insert (d : Dict α) (name other : String) (value : α) :
    (d.insert name value).get? other = if name = other then some value else d.get? other :=
  lookup_insertEntry name other value

@[simp] theorem get?_empty (name : String) : (empty : Dict α).get? name = none := rfl

end Dict

end RunEngine
