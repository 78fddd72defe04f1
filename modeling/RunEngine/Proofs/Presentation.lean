import Mathlib.Data.List.Basic
import RunEngine.Json.Fields
import RunEngine.Proofs.Entries

/-!
# Sources that present a value

A JSON value may come with the members of its objects in any order: in the order in which a record
is written, or in that of their names. `Json.PresentedBy` says that a source is one of these.

Readers take out of every presentation what they are to read, as long as they may enter as many
levels as the value is deep. A value that is read whole has to list the members of its objects as
maps do, since that is how it comes out (`Json.Ordered`; `Json.Fits` says both).
**`Source.value?_of_presented`** reads such a value, **`Source.fields?_of_presented`** finds the
fields of a record, and the lemmas between them are about texts, lists, maps and optional values.
-/

namespace RunEngine

namespace Json

/-! ## Depth and order -/

mutual

/-- How deep arrays and objects are nested. -/
def depth : Json → Nat
  | .array items => itemsDepth items + 1
  | .object members => membersDepth members + 1
  | _ => 0

def itemsDepth : List Json → Nat
  | [] => 0
  | item :: rest => max (depth item) (itemsDepth rest)

def membersDepth : List (String × Json) → Nat
  | [] => 0
  | (_, value) :: rest => max (depth value) (membersDepth rest)

end

theorem itemsDepth_le_iff {levels : Nat} {items : List Json} :
    itemsDepth items ≤ levels ↔ ∀ item ∈ items, item.depth ≤ levels := by
  induction items with
  | nil => simp [itemsDepth]
  | cons item rest ih => simp [itemsDepth, ih]

mutual

/-- Every object lists its members as a map does. -/
def Ordered : Json → Prop
  | .array items => ItemsOrdered items
  | .object members => Ascending members ∧ MembersOrdered members
  | _ => True

def ItemsOrdered : List Json → Prop
  | [] => True
  | item :: rest => Ordered item ∧ ItemsOrdered rest

def MembersOrdered : List (String × Json) → Prop
  | [] => True
  | (_, value) :: rest => Ordered value ∧ MembersOrdered rest

end

mutual

/-- Whether arrays and objects are nested at most `levels` deep, and every object lists its members
as a map does. -/
def Fits (levels : Nat) : Json → Prop
  | .array items => 0 < levels ∧ ItemsFit (levels - 1) items
  | .object members => 0 < levels ∧ Ascending members ∧ MembersFit (levels - 1) members
  | _ => True

def ItemsFit (levels : Nat) : List Json → Prop
  | [] => True
  | item :: rest => Fits levels item ∧ ItemsFit levels rest

def MembersFit (levels : Nat) : List (String × Json) → Prop
  | [] => True
  | (_, value) :: rest => Fits levels value ∧ MembersFit levels rest

end

mutual

theorem fits_iff {levels : Nat} : ∀ {value : Json},
    value.Fits levels ↔ value.Ordered ∧ value.depth ≤ levels
  | .null | .bool _ | .number _ | .string _ => by simp [Fits, Ordered, depth]
  | .array items => by
    have hle : itemsDepth items + 1 ≤ levels ↔ 0 < levels ∧ itemsDepth items ≤ levels - 1 := by
      omega
    rw [Fits, Ordered, depth, itemsFit_iff, hle]
    tauto
  | .object members => by
    have hle : membersDepth members + 1 ≤ levels ↔
        0 < levels ∧ membersDepth members ≤ levels - 1 := by omega
    rw [Fits, Ordered, depth, membersFit_iff, hle]
    tauto

theorem itemsFit_iff {levels : Nat} : ∀ {items : List Json},
    ItemsFit levels items ↔ ItemsOrdered items ∧ itemsDepth items ≤ levels
  | [] => by simp [ItemsFit, ItemsOrdered, itemsDepth]
  | item :: rest => by
    rw [ItemsFit, ItemsOrdered, itemsDepth, fits_iff, itemsFit_iff, Nat.max_le]
    tauto

theorem membersFit_iff {levels : Nat} : ∀ {members : List (String × Json)},
    MembersFit levels members ↔ MembersOrdered members ∧ membersDepth members ≤ levels
  | [] => by simp [MembersFit, MembersOrdered, membersDepth]
  | (_, value) :: rest => by
    rw [MembersFit, MembersOrdered, membersDepth, fits_iff, membersFit_iff, Nat.max_le]
    tauto

end

/-! ## Presentations -/

mutual

/-- The source has the items and members of the value, the members of each object in any order. -/
def PresentedBy : Json → Source → Prop
  | .null, s => s = .null
  | .bool b, s => s = .bool b
  | .number n, s => s = .number (some n)
  | .string text, s => s = .string (some text)
  | .array items, s => ∃ sources, s = .array sources ∧ ItemsPresentedBy items sources
  | .object members, s => ∃ found, s = .object found ∧ MembersPresentedBy members found

def ItemsPresentedBy : List Json → List Source → Prop
  | [], sources => sources = []
  | item :: rest, sources =>
    ∃ s left, sources = s :: left ∧ PresentedBy item s ∧ ItemsPresentedBy rest left

def MembersPresentedBy : List (String × Json) → List (Option String × Source) → Prop
  | [], found => found = []
  | (name, value) :: rest, found =>
    ∃ s left, found.Perm ((some name, s) :: left) ∧ PresentedBy value s ∧
      MembersPresentedBy rest left

end

mutual

/-- A value is presented as it is written down. -/
theorem presentedBy_ofJson : ∀ value : Json, value.PresentedBy (.ofJson value)
  | .null | .bool _ | .number _ | .string _ => rfl
  | .array items => ⟨_, rfl, itemsPresentedBy_ofItems items⟩
  | .object members => ⟨_, rfl, membersPresentedBy_ofMembers members⟩

theorem itemsPresentedBy_ofItems : ∀ items : List Json,
    ItemsPresentedBy items (Source.ofItems items)
  | [] => rfl
  | item :: rest => ⟨_, _, rfl, presentedBy_ofJson item, itemsPresentedBy_ofItems rest⟩

theorem membersPresentedBy_ofMembers : ∀ members : List (String × Json),
    MembersPresentedBy members (Source.ofMembers members)
  | [] => rfl
  | (_, value) :: rest =>
    ⟨_, _, .refl _, presentedBy_ofJson value, membersPresentedBy_ofMembers rest⟩

end

theorem presentedBy_string {text : String} {s : Source} :
    (Json.string text).PresentedBy s ↔ s = .string (some text) :=
  .rfl

theorem presentedBy_number {n : Number} {s : Source} :
    (Json.number n).PresentedBy s ↔ s = .number (some n) :=
  .rfl

/-- Only `null` is presented by `null`. -/
theorem PresentedBy.ne_null {value : Json} {s : Source} (h : value.PresentedBy s)
    (hnull : value ≠ .null) : s ≠ .null := by
  rintro rfl
  cases value <;> simp_all [PresentedBy]

end Json

namespace Source

variable {α β : Type} {levels : Nat} {s : Source}

/-! ## Members in any order -/

/-- What is read item by item from a rearranged list is rearranged alike. -/
theorem exists_mapM_of_perm {f : α → Option β} {xs ys : List α} (h : xs.Perm ys) :
    ∀ {bs}, ys.mapM f = some bs → ∃ as, xs.mapM f = some as ∧ as.Perm bs := by
  -- One swap of neighbours at a time; what is read is swapped with them.
  induction h with
  | nil => exact fun h => ⟨_, h, .refl _⟩
  | cons x _ ih =>
    intro bs hbs
    simp only [List.mapM_cons, Option.bind_eq_bind, Option.bind_eq_some_iff, Option.pure_def,
      Option.some.injEq] at hbs
    obtain ⟨b, hb, rest, hrest, rfl⟩ := hbs
    obtain ⟨as, has, hperm⟩ := ih hrest
    exact ⟨b :: as, by simp [hb, has], hperm.cons b⟩
  | swap x y l =>
    intro bs hbs
    simp only [List.mapM_cons, Option.bind_eq_bind, Option.bind_eq_some_iff, Option.pure_def,
      Option.some.injEq] at hbs
    obtain ⟨b, hb, _, ⟨c, hc, rest, hrest, rfl⟩, rfl⟩ := hbs
    exact ⟨c :: b :: rest, by simp [hb, hc, hrest], .swap ..⟩
  | trans _ _ ih₁ ih₂ =>
    intro bs hbs
    obtain ⟨cs, hcs, hperm⟩ := ih₂ hbs
    obtain ⟨as, has, hperm'⟩ := ih₁ hcs
    exact ⟨as, has, hperm'.trans hperm⟩

theorem members?_eq_mapM (levels : Nat) : ∀ found : List (Option String × Source),
    members? levels found = found.mapM (binding? (value? levels))
  | [] => rfl
  | (none, s) :: rest => by simp [members?, binding?]
  | (some name, s) :: rest => by
    cases h : value? levels s <;> simp [members?, binding?, members?_eq_mapM levels rest, h]

/-- One more entry, wherever it stands. -/
theorem exists_mapM_binding?_cons {read : Source → Option α} {name : String} {a : α}
    {found left : List (Option String × Source)} {as entries : List (String × α)}
    (hperm : found.Perm ((some name, s) :: left)) (hread : read s = some a)
    (hleft : left.mapM (binding? read) = some as) (has : as.Perm entries) :
    ∃ bs, found.mapM (binding? read) = some bs ∧ bs.Perm ((name, a) :: entries) := by
  have hcons : ((some name, s) :: left).mapM (binding? read) = some ((name, a) :: as) := by
    simp [binding?, hread, hleft]
  obtain ⟨bs, hbs, hperm⟩ := exists_mapM_of_perm hperm hcons
  exact ⟨bs, hbs, hperm.trans (has.cons _)⟩

/-! ## Values -/

/-- What is nested in something is one level less deep. -/
theorem exists_eq_succ_of_le {depth levels : Nat} (h : depth + 1 ≤ levels) :
    ∃ n, levels = n + 1 ∧ depth ≤ n :=
  ⟨levels - 1, by omega⟩

mutual

/-- Every presentation has some value. -/
theorem exists_value?_of_presented {levels : Nat} : ∀ {value : Json} {s : Source},
    value.PresentedBy s → value.depth ≤ levels → ∃ w, s.value? levels = some w
  | .null, _, rfl, _ | .bool _, _, rfl, _ | .number _, _, rfl, _ | .string _, _, rfl, _ =>
    ⟨_, rfl⟩
  | .array items, _, ⟨_, rfl, hitems⟩, hdepth => by
    obtain ⟨levels, rfl, hle⟩ := exists_eq_succ_of_le hdepth
    obtain ⟨ws, hws⟩ := exists_items?_of_presented hitems hle
    exact ⟨.array ws, by simp [value?, hws]⟩
  | .object members, _, ⟨_, rfl, hmembers⟩, hdepth => by
    obtain ⟨levels, rfl, hle⟩ := exists_eq_succ_of_le hdepth
    obtain ⟨ws, hws⟩ := exists_members?_of_presented hmembers hle
    exact ⟨.ofDict (.ofList ws), by simp [value?, hws]⟩

theorem exists_items?_of_presented {levels : Nat} : ∀ {items : List Json}
    {sources : List Source}, Json.ItemsPresentedBy items sources →
    Json.itemsDepth items ≤ levels → ∃ ws, items? levels sources = some ws
  | [], _, rfl, _ => ⟨[], rfl⟩
  | _ :: _, _, ⟨_, _, rfl, hitem, hrest⟩, hdepth => by
    obtain ⟨hd, hds⟩ := Nat.max_le.1 hdepth
    obtain ⟨w, hw⟩ := exists_value?_of_presented hitem hd
    obtain ⟨ws, hws⟩ := exists_items?_of_presented hrest hds
    exact ⟨w :: ws, by simp [items?, hw, hws]⟩

theorem exists_members?_of_presented {levels : Nat} : ∀ {members : List (String × Json)}
    {found : List (Option String × Source)}, Json.MembersPresentedBy members found →
    Json.membersDepth members ≤ levels → ∃ ws, members? levels found = some ws
  | [], _, rfl, _ => ⟨[], rfl⟩
  | _ :: _, _, ⟨_, _, hperm, hvalue, hrest⟩, hdepth => by
    obtain ⟨hd, hds⟩ := Nat.max_le.1 hdepth
    obtain ⟨w, hw⟩ := exists_value?_of_presented hvalue hd
    obtain ⟨ws, hws⟩ := exists_members?_of_presented hrest hds
    rw [members?_eq_mapM] at hws ⊢
    obtain ⟨bs, hbs, -⟩ := exists_mapM_binding?_cons hperm hw hws (.refl _)
    exact ⟨bs, hbs⟩

end

mutual

/-- A value whose objects list their members as maps do is read from every presentation. -/
theorem value?_of_presented {levels : Nat} : ∀ {value : Json} {s : Source},
    value.PresentedBy s → value.Ordered → value.depth ≤ levels → s.value? levels = some value
  | .null, _, rfl, _, _ | .bool _, _, rfl, _, _ | .number _, _, rfl, _, _
  | .string _, _, rfl, _, _ => rfl
  | .array items, _, ⟨_, rfl, hitems⟩, hordered, hdepth => by
    obtain ⟨levels, rfl, hle⟩ := exists_eq_succ_of_le hdepth
    simp [value?, items?_of_presented hitems hordered hle]
  | .object members, _, ⟨_, rfl, hmembers⟩, ⟨hascending, hordered⟩, hdepth => by
    obtain ⟨levels, rfl, hle⟩ := exists_eq_succ_of_le hdepth
    obtain ⟨ws, hws, hperm⟩ := exists_members?_perm_of_presented hmembers hordered hle
    have hdict : Dict.ofList ws = ⟨members, hascending⟩ := Dict.ofList_of_perm hperm
    simp [value?, hws, hdict, Json.ofDict]

theorem items?_of_presented {levels : Nat} : ∀ {items : List Json} {sources : List Source},
    Json.ItemsPresentedBy items sources → Json.ItemsOrdered items →
    Json.itemsDepth items ≤ levels → items? levels sources = some items
  | [], _, rfl, _, _ => rfl
  | _ :: _, _, ⟨_, _, rfl, hitem, hrest⟩, ⟨ho, hos⟩, hdepth => by
    obtain ⟨hd, hds⟩ := Nat.max_le.1 hdepth
    simp [items?, value?_of_presented hitem ho hd, items?_of_presented hrest hos hds]

theorem exists_members?_perm_of_presented {levels : Nat} :
    ∀ {members : List (String × Json)} {found : List (Option String × Source)},
    Json.MembersPresentedBy members found → Json.MembersOrdered members →
    Json.membersDepth members ≤ levels →
    ∃ ws, members? levels found = some ws ∧ ws.Perm members
  | [], _, rfl, _, _ => ⟨[], rfl, .refl _⟩
  | _ :: _, _, ⟨_, _, hperm, hvalue, hrest⟩, ⟨ho, hos⟩, hdepth => by
    obtain ⟨hd, hds⟩ := Nat.max_le.1 hdepth
    have hw := value?_of_presented hvalue ho hd
    obtain ⟨ws, hws, hperm'⟩ := exists_members?_perm_of_presented hrest hos hds
    rw [members?_eq_mapM] at hws ⊢
    exact exists_mapM_binding?_cons hperm hw hws hperm'

end

/-! ## Texts, lists, maps and optional values -/

theorem string?_of_presented {text : String} (h : (Json.string text).PresentedBy s) :
    s.string? = some text := by
  rw [Json.presentedBy_string.1 h, string?]

/-- A list is read item by item. -/
theorem list?_of_presented {read : Nat → Source → Option α} {write : α → Json} {as : List α}
    (h : (Json.array (as.map write)).PresentedBy s)
    (hdepth : (Json.array (as.map write)).depth ≤ levels)
    (hread : ∀ a ∈ as, ∀ n s, (write a).PresentedBy s → (write a).depth ≤ n → read n s = some a) :
    list? levels read s = some as := by
  obtain ⟨levels, rfl, hle⟩ := exists_eq_succ_of_le hdepth
  obtain ⟨sources, rfl, hsources⟩ := h
  suffices sources.mapM (read levels) = some as by simpa [list?] using this
  clear hdepth
  induction as generalizing sources with
  | nil =>
    obtain rfl := hsources
    rfl
  | cons a rest ih =>
    obtain ⟨s, left, rfl, hs, hleft⟩ := hsources
    obtain ⟨ha, hrest⟩ := Nat.max_le.1 hle
    have htail := ih (fun b hb => hread b (List.mem_cons_of_mem _ hb)) hrest left hleft
    simp [hread a (List.mem_cons_self ..) levels s hs ha, htail]

/-- A map is read entry by entry, in whatever order they come. -/
theorem dict?_of_presented {read : Nat → Source → Option α} {write : α → Json} {d : Dict α}
    (h : (Json.ofDict (d.map write)).PresentedBy s)
    (hdepth : (Json.ofDict (d.map write)).depth ≤ levels)
    (hread : ∀ e ∈ d.entries, ∀ n s, (write e.2).PresentedBy s → (write e.2).depth ≤ n →
      read n s = some e.2) :
    dict? levels read s = some d := by
  obtain ⟨levels, rfl, hle⟩ := exists_eq_succ_of_le hdepth
  obtain ⟨found, rfl, hfound⟩ := h
  suffices ∃ as, found.mapM (binding? (read levels)) = some as ∧ as.Perm d.entries by
    obtain ⟨as, has, hperm⟩ := this
    simp [dict?, has, Dict.ofList_of_perm hperm]
  clear hdepth
  simp only [Dict.map] at hfound hle
  generalize d.entries = entries at hread hfound hle
  induction entries generalizing found with
  | nil =>
    obtain rfl := hfound
    exact ⟨[], rfl, .refl _⟩
  | cons e rest ih =>
    obtain ⟨s, left, hperm, hs, hleft⟩ := hfound
    obtain ⟨he, hrest⟩ := Nat.max_le.1 hle
    obtain ⟨as, has, htail⟩ :=
      ih left (fun b hb => hread b (List.mem_cons_of_mem _ hb)) hleft hrest
    have hhead := hread e (List.mem_cons_self ..) levels s hs he
    exact exists_mapM_binding?_cons hperm hhead has htail

/-- An optional value is read back when it is not written like its absence. -/
theorem option?_of_presented {read : Source → Option α} {write : α → Json} {value : Option α}
    (h : (Json.ofOption write value).PresentedBy s) (hnull : ∀ a, value = some a → write a ≠ .null)
    (hread : ∀ a, value = some a → (write a).PresentedBy s → read s = some a) :
    option? read s = some value := by
  cases value with
  | none =>
    obtain rfl : s = .null := h
    rfl
  | some a =>
    have hs : s ≠ .null := Json.PresentedBy.ne_null h (hnull a rfl)
    have ha := hread a rfl h
    cases s <;> simp_all [option?]

/-! ## Fields -/

theorem map_fst_perm_of_presented {members : List (String × Json)} :
    ∀ {found : List (Option String × Source)}, Json.MembersPresentedBy members found →
      (found.map (·.1)).Perm (members.map fun m => some m.1) := by
  induction members with
  | nil =>
    rintro found rfl
    exact .refl _
  | cons m rest ih =>
    rintro found ⟨s, left, hperm, -, hleft⟩
    exact (hperm.map _).trans ((ih hleft).cons _)

theorem any_isNone_of_presented {members : List (String × Json)}
    {found : List (Option String × Source)} (h : Json.MembersPresentedBy members found) :
    found.any (·.1.isNone) = false := by
  refine List.any_eq_false.2 fun m hm => ?_
  have hmem := (map_fst_perm_of_presented h).mem_iff.1 (List.mem_map_of_mem hm)
  obtain ⟨_, -, hname⟩ := List.mem_map.1 hmem
  simp [← hname]

/-- Under a name that one member has, its value is found. -/
theorem unique?_of_presented {name : String} {value : Json} {members : List (String × Json)}
    {found : List (Option String × Source)} (h : Json.MembersPresentedBy members found)
    (hnodup : (members.map (·.1)).Nodup) (hmem : (name, value) ∈ members) :
    ∃ s, unique? name found = some (some s) ∧ value.PresentedBy s := by
  suffices ∃ s, found.filter (fun m => m.1 == some name) = [(some name, s)] ∧
      value.PresentedBy s by
    obtain ⟨s, hfilter, hs⟩ := this
    exact ⟨s, by simp only [unique?, hfilter], hs⟩
  induction members generalizing found with
  | nil => simp at hmem
  | cons m rest ih =>
    obtain ⟨k, v⟩ := m
    obtain ⟨s, left, hperm, hs, hleft⟩ := h
    obtain ⟨hk, hrest⟩ := List.nodup_cons.1 hnodup
    -- A rearrangement of a single member is that member, so the filter need not be followed.
    have hfilter := hperm.filter fun m => m.1 == some name
    rcases List.mem_cons.1 hmem with heq | hmem
    · obtain ⟨rfl, rfl⟩ := Prod.mk.inj heq
      have hnone : left.filter (fun m => m.1 == some name) = [] := by
        refine List.filter_eq_nil_iff.2 fun m hm => ?_
        have := (map_fst_perm_of_presented hleft).mem_iff.1 (List.mem_map_of_mem hm)
        obtain ⟨e, he, hname⟩ := List.mem_map.1 this
        simpa [← hname] using fun heq => hk (List.mem_map.2 ⟨e, he, heq⟩)
      exact ⟨s, List.perm_singleton.1 (by simpa [hnone] using hfilter), hs⟩
    · have hne : k ≠ name := by
        rintro rfl
        exact hk (List.mem_map.2 ⟨_, hmem, rfl⟩)
      obtain ⟨t, ht, hvalue⟩ := ih hleft hrest hmem
      exact ⟨t, List.perm_singleton.1 (by simpa [hne, ht] using hfilter), hvalue⟩

/-- Each field that is wanted is found under its name. -/
theorem fields?_of_presented (levels : Nat) {members wanted : List (String × Json)}
    (h : (Json.object members).PresentedBy s) (hnodup : (members.map (·.1)).Nodup)
    (hwanted : wanted ⊆ members) :
    ∃ sources, fields? (levels + 1) (wanted.map (·.1)) s = some (sources.map some) ∧
      Json.ItemsPresentedBy (wanted.map (·.2)) sources := by
  obtain ⟨found, rfl, hfound⟩ := h
  simp only [fields?, any_isNone_of_presented hfound, Nat.succ_ne_zero, Bool.false_eq_true,
    or_self, if_false]
  induction wanted with
  | nil => exact ⟨[], rfl, rfl⟩
  | cons m rest ih =>
    obtain ⟨hm, hrest⟩ := List.cons_subset.1 hwanted
    obtain ⟨s, hs, hvalue⟩ := unique?_of_presented hfound hnodup hm
    obtain ⟨sources, hsources, hitems⟩ := ih hrest
    exact ⟨s :: sources, by simp [hs, hsources], s, sources, rfl, hvalue, hitems⟩

end Source

end RunEngine
