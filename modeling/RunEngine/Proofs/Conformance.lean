import RunEngine.Proofs.IntegerText

/-!
# Values of the declared kinds

Coercion gives values that the spec admits (`ParameterSpec.admits_of_coerce`): values of the
declared kind, or `null` where it stands for any. It leaves exactly those as they are
(`ParameterSpec.coerce_eq_self_iff`), and makes nothing but `null` into `null`. So
**`ParameterSpec.coerce_projects`**: coercion is a projection onto the declared kind. A default is
not coerced.

**`Schema.validate_conforms`** follows both through a validation. What is supplied comes out as its
spec admits. The parameters conform as a whole, and a second validation leaves them as they are,
exactly if the defaults that were filled in are admitted by their own specs.
-/

namespace RunEngine

namespace ParamKind

/-- The values of a kind. -/
def Holds : ParamKind → Json → Prop
  | any, _ => True
  | int, .number (.int n) => isWord n
  | float, .number (.float x) => x.isFinite
  | str, .string _ => True
  | bool, .bool _ => True
  | list, .array _ => True
  | object, .object _ => True
  | _, _ => False

end ParamKind

namespace ParameterSpec

variable {s : ParameterSpec} {value : Json}

/-- A value of the declared kind, or `null` where the parameter may be `null`. -/
def Admits (s : ParameterSpec) (value : Json) : Prop :=
  s.kind.Holds value ∨ value = .null ∧ (s.kind = .any ∨ s.isRequired = false)

theorem finite?_eq_some_iff {x : Binary64} :
    Json.finite? x = some value ↔ x.isFinite ∧ Json.number (.float x) = value := by
  simp [Json.finite?]

theorem coerce_null : s.coerce .null = if s.admitsNull then some .null else none := by
  obtain ⟨_, kind, _⟩ := s
  cases kind <;> rfl

theorem admitsNull_iff : s.admitsNull ↔ s.kind = .any ∨ s.isRequired = false := by
  simp [admitsNull]

/-- A float that is made of something supplied is finite. -/
theorem holds_of_finite? {x : Binary64} (h : Json.finite? x = some value) :
    ParamKind.float.Holds value := by
  obtain ⟨hx, rfl⟩ := finite?_eq_some_iff.1 h
  exact hx

/-- What another value than `null` is coerced to is of the declared kind. -/
theorem holds_of_coerce {given : Json} (hnull : given ≠ .null)
    (h : s.coerce given = some value) : s.kind.Holds value := by
  obtain ⟨_, kind, _⟩ := s
  cases given with
  | null => exact absurd rfl hnull
  | bool b => cases kind <;> simp [coerce] at h <;> exact h ▸ trivial
  | number n =>
    cases n with
    | int n =>
      cases kind with
      | any => trivial
      | int =>
        simp only [coerce, Option.ite_none_right_eq_some, Option.some.injEq] at h
        exact h.2 ▸ h.1
      | float => exact holds_of_finite? h
      | _ => simp [coerce] at h
    | float x =>
      cases kind with
      | any => trivial
      | float => exact holds_of_finite? h
      | _ => simp [coerce] at h
  | string t =>
    cases kind with
    | any => trivial
    | int =>
      obtain ⟨n, hread, rfl⟩ := Option.map_eq_some_iff.1 h
      exact isWord_of_isInt64 (readInt64_trim_eq_some_iff.1 hread).2
    | float =>
      obtain ⟨x, -, hx⟩ := Option.bind_eq_some_iff.1 h
      exact holds_of_finite? hx
    | str => exact Option.some.inj h ▸ trivial
    | bool =>
      simp only [coerce] at h
      split_ifs at h <;> exact Option.some.inj h ▸ trivial
    | _ => simp [coerce] at h
  | array items => cases kind <;> simp [coerce] at h <;> exact h ▸ trivial
  | object members => cases kind <;> simp [coerce] at h <;> exact h ▸ trivial

/-- A value of the declared kind stays as it is. -/
theorem coerce_of_holds (hnull : value ≠ .null) (h : s.kind.Holds value) :
    s.coerce value = some value := by
  obtain ⟨_, kind, _⟩ := s
  cases value with
  | null => exact absurd rfl hnull
  | number n =>
    cases n with
    | int n =>
      cases kind with
      | any => rfl
      | int => exact if_pos h
      | _ => exact h.elim
    | float x =>
      cases kind with
      | any => rfl
      | float => exact if_pos h
      | _ => exact h.elim
  | _ => cases kind <;> first | rfl | exact h.elim

/-- Coercion gives values that the spec admits. -/
theorem admits_of_coerce {given : Json} (h : s.coerce given = some value) : s.Admits value := by
  by_cases hnull : given = .null
  · subst hnull
    rw [coerce_null, Option.ite_none_right_eq_some, admitsNull_iff] at h
    exact .inr ⟨(Option.some.inj h.2).symm, h.1⟩
  · exact .inl (holds_of_coerce hnull h)

/-- Exactly the values that a spec admits are coerced to themselves. -/
theorem coerce_eq_self_iff : s.coerce value = some value ↔ s.Admits value := by
  refine ⟨admits_of_coerce, fun h => ?_⟩
  by_cases hnull : value = .null
  · subst hnull
    rw [coerce_null, if_pos]
    rcases h with h | ⟨-, h⟩
    · obtain ⟨_, kind, _⟩ := s
      cases kind <;> first | rfl | exact h.elim
    · exact admitsNull_iff.2 h
  · exact coerce_of_holds hnull (h.resolve_right fun h => hnull h.1)

/-- A parameter of kind `any` takes every value as it is. -/
theorem coerce_of_any (hkind : s.kind = .any) (value : Json) : s.coerce value = some value :=
  coerce_eq_self_iff.2 (.inl (by rw [hkind]; trivial))

/-- Nothing but `null` is made into `null`. -/
theorem eq_null_of_coerce {given : Json} (h : s.coerce given = some .null) : given = .null := by
  by_contra hnull
  have hholds := holds_of_coerce hnull h
  -- Only a value of kind `any` may be `null`, and there nothing is made into anything else.
  cases hkind : s.kind with
  | any => exact hnull (Option.some.inj ((coerce_of_any hkind given).symm.trans h))
  | _ => simp [hkind, ParamKind.Holds] at hholds

/-- **Coercion is a projection onto the declared kind.** What comes out is `null` only where `null`
went in and the spec allows it, and of the declared kind otherwise. It is not changed by coercing it
again, and it is what went in exactly if that was admitted already. -/
theorem coerce_projects {given : Json} (h : s.coerce given = some value) :
    (value = .null → given = .null ∧ (s.kind = .any ∨ s.isRequired = false)) ∧
      (value ≠ .null → s.kind.Holds value) ∧
      s.coerce value = some value ∧
      (value = given ↔ s.Admits given) := by
  have hadmits := admits_of_coerce h
  refine ⟨?_, fun hvalue => hadmits.resolve_right fun hn => hvalue hn.1,
    coerce_eq_self_iff.2 hadmits, ?_, fun hgiven => ?_⟩
  · rintro rfl
    obtain rfl := eq_null_of_coerce h
    rw [coerce_null, Option.ite_none_right_eq_some] at h
    exact ⟨rfl, admitsNull_iff.1 h.1⟩
  · rintro rfl
    exact hadmits
  · exact Option.some.inj (h.symm.trans (coerce_eq_self_iff.2 hgiven))

/-- A ratio that may be left out. -/
def ratio : ParameterSpec := ⟨"ratio", .float, some .null⟩

/-- A text for a float is made into the float that it writes, which stays as it is. -/
theorem coerce_projects_text :
    let half : Json := .number (.float (.ofRatio false 1 2))
    ratio.coerce (.string " 5e-1\n") = some half ∧ ParamKind.float.Holds half ∧
      ratio.coerce half = some half ∧ ¬ ratio.Admits (.string " 5e-1\n") := by
  intro half
  have hcoerce : ratio.coerce (.string " 5e-1\n") = some half := by decide +kernel
  obtain ⟨-, hholds, hagain, hchanged⟩ := coerce_projects hcoerce
  exact ⟨hcoerce, hholds (by decide), hagain, fun h => absurd (hchanged.2 h) (by decide)⟩

end ParameterSpec

namespace Schema

variable {s : Schema} {supplied settled : Parameters}

/-- Every declared parameter has a value that its spec admits. -/
def Conforms (s : Schema) (settled : Parameters) : Prop :=
  ∀ spec ∈ s.params, ∃ value, settled.get? spec.name = some value ∧ spec.Admits value

/-- The defaults of the parameters that are not supplied are admitted by their own specs. -/
def DefaultsFit (s : Schema) (supplied : Parameters) : Prop :=
  ∀ spec ∈ s.params, supplied.get? spec.name = none →
    ∀ default, spec.default = some default → spec.Admits default

/-- A spec whose name is declared once is the last with that name. -/
theorem exists_split_of_nodup (hnames : (s.params.map (·.name)).Nodup) {spec : ParameterSpec}
    (hspec : spec ∈ s.params) : ∃ earlier later, s.params = earlier ++ spec :: later ∧
      ∀ other ∈ later, other.name ≠ spec.name := by
  obtain ⟨earlier, later, hsplit⟩ := List.append_of_mem hspec
  refine ⟨earlier, later, hsplit, fun other hother hname => ?_⟩
  rw [hsplit, List.map_append, List.map_cons] at hnames
  have hlater := (List.nodup_cons.1 (List.nodup_append.1 hnames).2.1).1
  exact hlater (List.mem_map.2 ⟨other, hother, hname⟩)

/-- Where every name is declared once, each parameter comes out with the value of its spec. -/
theorem Settles.exists_value (h : s.Settles supplied settled)
    (hnames : (s.params.map (·.name)).Nodup) {spec : ParameterSpec} (hspec : spec ∈ s.params) :
    ∃ value, spec.Yields supplied value ∧ settled.get? spec.name = some value := by
  obtain ⟨earlier, later, hsplit, hlater⟩ := exists_split_of_nodup hnames hspec
  exact h.last earlier spec later hsplit hlater

/-- Parameters that conform, with no name that should not be there, are left as they are. -/
theorem validate_of_conforms (hnames : (s.params.map (·.name)).Nodup) (h : s.Conforms settled)
    (hextra : s.allowExtra = true ∨ ∀ name ∈ settled.keys, s.Declares name) :
    s.validate settled = .ok settled := by
  have hyields : ∀ spec ∈ s.params, ∃ value, settled.get? spec.name = some value ∧
      spec.Yields settled value := fun spec hspec =>
    have ⟨value, hget, hadmits⟩ := h spec hspec
    ⟨value, hget, .coerced hget (ParameterSpec.coerce_eq_self_iff.2 hadmits)⟩
  have hadmits : s.Admits settled :=
    ⟨fun spec hspec => have ⟨value, _, hvalue⟩ := hyields spec hspec; ⟨value, hvalue⟩, hextra⟩
  have hagain := settles_of_admits hadmits
  rw [validate_of_admits hadmits]
  refine congrArg _ (Dict.ext_get? fun name => ?_)
  by_cases hname : s.Declares name
  · obtain ⟨spec, hspec, rfl⟩ := hname
    obtain ⟨value, hget, hvalue⟩ := hyields spec hspec
    obtain ⟨other, hother, hget'⟩ := hagain.exists_value hnames hspec
    rw [hget, hget', hvalue.unique hother]
  · by_cases hmem : name ∈ settled.keys
    · have hcomes := (hagain.names name).2
        (.inr ⟨hextra.resolve_right fun hall => hname (hall name hmem), hmem⟩)
      exact hagain.untouched name hcomes hname
    · have hgone := mt (hagain.names name).1 (not_or.2 ⟨hname, fun h => hmem h.2⟩)
      rw [Dict.mem_keys_iff, Option.not_isSome_iff_eq_none] at hmem hgone
      rw [hmem, hgone]

/-- No name comes out that should not be there. -/
theorem Settles.declares (h : s.Settles supplied settled) :
    s.allowExtra = true ∨ ∀ name ∈ settled.keys, s.Declares name := by
  cases hallow : s.allowExtra with
  | true => exact .inl rfl
  | false =>
    refine .inr fun name hname => ?_
    exact ((h.names name).1 hname).resolve_right (by simp [hallow])

theorem conforms_iff (hnames : (s.params.map (·.name)).Nodup)
    (h : s.Settles supplied settled) : s.Conforms settled ↔ s.DefaultsFit supplied := by
  constructor
  · intro hconforms spec hspec hnone default hdefault
    obtain ⟨value, hget, hadmits⟩ := hconforms spec hspec
    obtain ⟨other, hother, hget'⟩ := h.exists_value hnames hspec
    obtain rfl := (ParameterSpec.Yields.filled hnone hdefault).unique hother
    rwa [← Option.some.inj (hget.symm.trans hget')]
  · intro hfit spec hspec
    obtain ⟨value, hyields, hget⟩ := h.exists_value hnames hspec
    refine ⟨value, hget, ?_⟩
    cases hyields with
    | coerced _ hcoerce => exact ParameterSpec.admits_of_coerce hcoerce
    | filled hnone hdefault => exact hfit spec hspec hnone value hdefault

/-- Validated parameters are of the declared kinds as far as they were supplied. Altogether they
are, and a second validation leaves them as they are, exactly if the defaults that were filled in
are. -/
theorem validate_conforms (hnames : (s.params.map (·.name)).Nodup)
    (h : s.validate supplied = .ok settled) :
    (∀ spec ∈ s.params, spec.name ∈ supplied.keys →
      ∃ value, settled.get? spec.name = some value ∧ spec.Admits value) ∧
      (s.Conforms settled ↔ s.DefaultsFit supplied) ∧
      (s.validate settled = .ok settled ↔ s.DefaultsFit supplied) := by
  have hsettles := settles_of_validate h
  have hiff := conforms_iff hnames hsettles
  refine ⟨fun spec hspec hgiven => ?_, hiff, fun hagain => ?_, fun hfit => ?_⟩
  · obtain ⟨value, hyields, hget⟩ := hsettles.exists_value hnames hspec
    cases hyields with
    | coerced _ hcoerce => exact ⟨value, hget, ParameterSpec.admits_of_coerce hcoerce⟩
    | filled hnone _ => simp [Dict.mem_keys_iff, hnone] at hgiven
  · refine hiff.1 fun spec hspec => ?_
    obtain ⟨value, hyields, hget⟩ := (settles_of_validate hagain).exists_value hnames hspec
    refine ⟨value, hget, ?_⟩
    cases hyields with
    | coerced _ hcoerce => exact ParameterSpec.admits_of_coerce hcoerce
    | filled hnone _ => simp [hnone] at hget
  · exact validate_of_conforms hnames (hiff.2 hfit) hsettles.declares

/-- A number, and a ratio that is one half unless it is supplied. -/
def rated : Schema :=
  (Schema.addRequired {} "x" .int).addOptional "ratio" .float
    (.number (.float (.ofRatio false 1 2)))

/-- A number supplied as a text and the default that is filled in, both of their kinds. -/
theorem validate_conforms_rated :
    (rated.params.map (·.name)).Nodup ∧
      ∃ settled, rated.validate (Dict.empty.insert "x" (.string " 7 ")) = .ok settled ∧
        settled.get? "x" = some (.int 7) ∧ rated.Conforms settled ∧
        rated.validate settled = .ok settled := by
  have hnames : (rated.params.map (·.name)).Nodup := by decide
  have hok : rated.validate (Dict.empty.insert "x" (.string " 7 ")) =
      .ok ((Dict.empty.insert "x" (.int 7)).insert "ratio"
        (.number (.float (.ofRatio false 1 2)))) := by decide +kernel
  have hhalf : (Binary64.ofRatio false 1 2).isFinite := by decide +kernel
  have hfit : rated.DefaultsFit (Dict.empty.insert "x" (.string " 7 ")) := by
    simp [DefaultsFit, rated, addRequired, addOptional, ParameterSpec.Admits, ParamKind.Holds,
      hhalf]
  obtain ⟨-, hconforms, hagain⟩ := validate_conforms hnames hok
  exact ⟨hnames, _, hok, by decide +kernel, hconforms.2 hfit, hagain.2 hfit⟩

/-- A number whose default is written as a text. -/
def quoted : Schema := Schema.addOptional {} "n" .int (.string "7")

/-- The default comes out as the text it is, and a second validation makes it a number. -/
theorem validate_quoted :
    quoted.validate ∅ = .ok (Dict.empty.insert "n" (.string "7")) ∧
      ¬ quoted.Conforms (Dict.empty.insert "n" (.string "7")) ∧
      quoted.validate (Dict.empty.insert "n" (.string "7")) =
        .ok (Dict.empty.insert "n" (.int 7)) := by
  refine ⟨by decide +kernel, fun h => ?_, by decide +kernel⟩
  obtain ⟨value, hget, hadmits⟩ := h _ (List.mem_singleton.2 rfl)
  obtain rfl := Option.some.inj hget
  simp [ParameterSpec.Admits, ParamKind.Holds] at hadmits

end Schema

end RunEngine
