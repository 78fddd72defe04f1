import Mathlib.Data.List.Basic
import Mathlib.Data.String.Basic
import RunEngine.Dict

/-!
# What is found in a dictionary

A dictionary is determined by what is found under each name (`Dict.ext_get?`). One that is made of
a list of entries has under each name the value that comes last in the list (`Dict.get?_ofList`),
so for entries with different names their order does not matter (`Dict.ofList_of_perm`).

Names are in ascending order, which **`Text.lt_iff_bytes_lt`** shows to be the order of their UTF-8
bytes: of two characters the smaller one has the smaller bytes, and neither begins with the other.
-/

namespace RunEngine

namespace Dict

universe u

variable {α : Type u} {name : String} {value : α}

/-! ## Looking up in entries -/

theorem lookup_append (xs ys : List (String × α)) :
    lookup name (xs ++ ys) = (lookup name xs).or (lookup name ys) := by
  induction xs with
  | nil => rfl
  | cons e rest ih => by_cases h : e.1 = name <;> simp [lookup, h, ih]

theorem isSome_lookup {entries : List (String × α)} :
    (lookup name entries).isSome ↔ name ∈ entries.map (·.1) := by
  induction entries with
  | nil => simp [lookup]
  | cons e rest ih =>
    by_cases h : e.1 = name
    · simp [lookup, h]
    · simp [lookup, h, Ne.symm h, ih]

theorem lookup_eq_none_iff {entries : List (String × α)} :
    lookup name entries = none ↔ name ∉ entries.map (·.1) := by
  rw [← isSome_lookup, Option.not_isSome_iff_eq_none]

/-- Where no name occurs twice, an entry is found under its name. -/
theorem lookup_eq_some_iff {entries : List (String × α)} (h : (entries.map (·.1)).Nodup) :
    lookup name entries = some value ↔ (name, value) ∈ entries := by
  induction entries with
  | nil => simp [lookup]
  | cons e rest ih =>
    obtain ⟨k, v⟩ := e
    obtain ⟨hk, hrest⟩ := List.nodup_cons.1 h
    by_cases hname : k = name
    · subst hname
      have hnot : ∀ w, (k, w) ∉ rest := fun w hw => hk (List.mem_map.2 ⟨_, hw, rfl⟩)
      simp [lookup, hnot, eq_comm]
    · simp [lookup, hname, Ne.symm hname, ih hrest]

theorem nodup_keys (d : Dict α) : (d.entries.map (·.1)).Nodup :=
  List.pairwise_map.2 (d.ascending.imp fun {a b} h (heq : a.1 = b.1) =>
    String.lt_irrefl b.1 (heq ▸ h))

/-! ## A dictionary and what is found in it -/

theorem mem_entries_iff {d : Dict α} : (name, value) ∈ d.entries ↔ d.get? name = some value :=
  (lookup_eq_some_iff d.nodup_keys).symm

theorem mem_keys_iff {d : Dict α} : name ∈ d.keys ↔ (d.get? name).isSome :=
  isSome_lookup.symm

/-- Ascending lists with the same entries are equal. -/
theorem eq_of_mem_iff {xs ys : List (String × α)} (hxs : Ascending xs) (hys : Ascending ys)
    (h : ∀ e, e ∈ xs ↔ e ∈ ys) : xs = ys := by
  have hnodup : ∀ {l : List (String × α)}, Ascending l → l.Nodup := fun hl =>
    hl.imp fun {a b} hlt (heq : a = b) => String.lt_irrefl b.1 (heq ▸ hlt)
  have hperm := (List.perm_ext_iff_of_nodup (hnodup hxs) (hnodup hys)).2 h
  refine hperm.eq_of_pairwise (fun a b _ _ hab hba => ?_) hxs hys
  exact absurd (String.lt_trans hab hba) (String.lt_irrefl _)

/-- Dictionaries in which the same is found under every name are equal. -/
theorem ext_get? {a b : Dict α} (h : ∀ name, a.get? name = b.get? name) : a = b :=
  ext_entries (eq_of_mem_iff a.ascending b.ascending fun (_, _) => by
    rw [mem_entries_iff, mem_entries_iff, h])

/-! ## The dictionary made of entries -/

theorem get?_foldl_insert (entries : List (String × α)) (d : Dict α) :
    (entries.foldl (fun d e => d.insert e.1 e.2) d).get? name =
      (lookup name entries.reverse).or (d.get? name) := by
  induction entries generalizing d with
  | nil => rfl
  | cons e rest ih =>
    rw [List.foldl_cons, ih, get?_insert, List.reverse_cons, lookup_append]
    by_cases h : e.1 = name <;> cases lookup name rest.reverse <;> simp [lookup, h]

/-- Of entries under one name the last stands. -/
theorem get?_ofList (entries : List (String × α)) :
    (ofList entries).get? name = lookup name entries.reverse := by
  rw [ofList, get?_foldl_insert, get?_empty, Option.or_none]

/-- A dictionary is made of its own entries, in whatever order they come. -/
theorem ofList_of_perm {entries : List (String × α)} {d : Dict α} (h : entries.Perm d.entries) :
    ofList entries = d := by
  have hperm : entries.reverse.Perm d.entries := entries.reverse_perm.trans h
  have hnodup : (entries.reverse.map (·.1)).Nodup := (hperm.map _).nodup_iff.2 d.nodup_keys
  refine ext_get? fun name => Option.ext fun value => ?_
  rw [get?_ofList, lookup_eq_some_iff hnodup, hperm.mem_iff, mem_entries_iff]

end Dict

/-! ## The order of names -/

namespace Text

/-- The UTF-8 bytes of a text. -/
def bytes (s : String) : List UInt8 := s.toList.flatMap String.utf8EncodeChar

/-- The bytes of a smaller character are smaller, whatever follows either. -/
theorem utf8EncodeChar_append_lt {c d : Char} (h : c < d) (xs ys : List UInt8) :
    String.utf8EncodeChar c ++ xs < String.utf8EncodeChar d ++ ys := by
  have hlt : c.val.toNat < d.val.toNat := h
  have hd : d.val.toNat < 0x110000 := by
    rcases d.valid with h | ⟨_, h⟩ <;> omega
  simp only [String.utf8EncodeChar]
  generalize c.val.toNat = m at hlt
  generalize d.val.toNat = n at hlt hd
  -- The digits of both characters in base 64, told by one quotient each.
  have hm := Nat.div_div_eq_div_mul m 64 64
  have hm' := Nat.div_div_eq_div_mul m 4096 64
  have hn := Nat.div_div_eq_div_mul n 64 64
  have hn' := Nat.div_div_eq_div_mul n 4096 64
  split_ifs <;>
    simp (disch := omega) only [List.cons_append, List.nil_append, List.cons_lt_cons_iff,
      UInt8.lt_iff_toNat_lt, ← UInt8.toNat_inj, UInt8.toNat_ofNat', Nat.mod_eq_of_lt] <;>
    omega

theorem flatMap_utf8EncodeChar_lt {cs ds : List Char} (h : cs < ds) :
    cs.flatMap String.utf8EncodeChar < ds.flatMap String.utf8EncodeChar := by
  induction h with
  | @nil d ds =>
    obtain ⟨b, bs, hb⟩ := List.exists_cons_of_ne_nil (String.utf8EncodeChar_ne_nil (c := d))
    simp [hb]
  | rel h => exact utf8EncodeChar_append_lt h _ _
  | cons _ ih => exact List.append_left_lt ih

/-- Texts are in the order of their UTF-8 bytes. -/
theorem lt_iff_bytes_lt {a b : String} : a < b ↔ bytes a < bytes b := by
  have hmono : ∀ {a b : String}, a < b → bytes a < bytes b := fun h =>
    flatMap_utf8EncodeChar_lt (String.lt_iff_toList_lt.1 h)
  refine ⟨hmono, fun h => ?_⟩
  rcases lt_trichotomy a b with hlt | rfl | hgt
  · exact hlt
  · exact absurd h (List.lt_irrefl _)
  · exact absurd (List.lt_trans h (hmono hgt)) (List.lt_irrefl _)

end Text

end RunEngine
