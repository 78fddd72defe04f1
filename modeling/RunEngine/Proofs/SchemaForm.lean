import Mathlib.Data.List.Basic
import RunEngine.Proofs.Presentation
import RunEngine.Proofs.Validation
import RunEngine.Wire.Decoding
import RunEngine.Wire.Encoding

/-!
# Schemas read back from their JSON form

A spec without a default is written with `null` for it, and `null` is read as no default. A default
that is `null` itself is written the same way, so a parameter that was optional is read back as
required. `ParameterSpec.reread` is the spec as it is read back.

**`Schema.decode_eq_reread`** says that every schema can be read back from every presentation of its
form, with the members of its objects in any order, that it is the same exactly if no default is
`null`, and which parameters the two schemas judge alike. They disagree only on those that leave out
a parameter whose default is `null`, or give it as `null` although it is of a kind that `null` does
not belong to.
-/

namespace RunEngine

open Source

namespace ParameterSpec

/-- The spec as it is read back from its JSON form. -/
def reread (s : ParameterSpec) : ParameterSpec :=
  { s with default := s.default.filter (!·.isNull) }

@[simp] theorem reread_name (s : ParameterSpec) : s.reread.name = s.name := rfl

@[simp] theorem reread_kind (s : ParameterSpec) : s.reread.kind = s.kind := rfl

theorem reread_eq_iff (s : ParameterSpec) : s.reread = s ↔ s.default ≠ some .null := by
  obtain ⟨name, kind, default⟩ := s
  cases default with
  | none => simp [reread]
  | some value => cases value <;> simp [reread, Json.isNull]

theorem toJson_reread (s : ParameterSpec) : s.reread.toJson = s.toJson := by
  obtain ⟨name, kind, default⟩ := s
  cases default with
  | none => rfl
  | some value => cases value <;> rfl

/-- The default is not `null`, and its objects list their members as maps do. -/
def Writable (s : ParameterSpec) : Prop :=
  ∀ value, s.default = some value → value.Ordered ∧ value ≠ .null

theorem writable_reread {s : ParameterSpec} (h : ∀ value ∈ s.default, value.Ordered) :
    s.reread.Writable := by
  intro value hvalue
  obtain ⟨hdefault, hnull⟩ := Option.filter_eq_some_iff.1 hvalue
  exact ⟨h value hdefault, by rintro rfl; simp [Json.isNull] at hnull⟩

theorem decode_of_presented {levels : Nat} {s : ParameterSpec} {source : Source} (hs : s.Writable)
    (h : s.toJson.PresentedBy source) (hdepth : s.toJson.depth ≤ levels) :
    decode levels source = some s := by
  obtain ⟨levels, rfl, hle⟩ := exists_eq_succ_of_le hdepth
  obtain ⟨_, hfields, _, _, rfl, hname, _, _, rfl, hkind, _, _, rfl, hdefault, rfl⟩ :=
    fields?_of_presented levels h (by simp) (List.Subset.refl _)
  simp only [Json.membersDepth, Nat.max_le] at hle
  have hdefault := option?_of_presented hdefault (fun value hv => (hs value hv).2)
    fun value hv h => value?_of_presented h (hs value hv).1
      (by simpa [hv, Json.ofOption] using hle.2.2.1)
  obtain rfl := Json.presentedBy_string.1 hkind
  have hkind : ParamKind.decode levels (.string (some s.kind.text)) = some s.kind :=
    s.kind.ofText?_text
  simp only [List.map_cons, List.map_nil] at hfields
  simp [decode, hfields, required, defaulted, string?_of_presented hname, hkind, hdefault]

/-! ## What the reading loses -/

/-- Whether the parameters `supplied` need the default `null` of the spec: they leave the parameter
out, or they give it as `null` although its kind alone does not admit that. -/
def NeedsNull (s : ParameterSpec) (supplied : Parameters) : Prop :=
  s.default = some .null ∧
    ∀ value, supplied.get? s.name = some value → value = .null ∧ s.kind ≠ .any

/-- A value that is not `null` is coerced without regard to the default. -/
theorem coerce_congr {s t : ParameterSpec} {value : Json} (hkind : s.kind = t.kind)
    (h : value = .null → s.admitsNull = t.admitsNull) : s.coerce value = t.coerce value := by
  obtain ⟨_, kind, _⟩ := s
  obtain ⟨_, _, _⟩ := t
  obtain rfl : kind = _ := hkind
  cases value with
  | null => simp [coerce, h rfl]
  | number n => cases n <;> cases kind <;> rfl
  | _ => cases kind <;> rfl

/-- `null` is refused without its default, unless the kind admits it. -/
theorem coerce_null_reread {s : ParameterSpec} (hnull : s.default = some .null)
    (hkind : s.kind ≠ .any) : s.reread.coerce .null = none := by
  simp [coerce, admitsNull, isRequired, reread, hnull, Json.isNull, hkind]

theorem settle_reread_of_needsNull {s : ParameterSpec} {supplied : Parameters}
    (h : s.NeedsNull supplied) :
    s.settle supplied = .ok .null ∧ ∃ issue, s.reread.settle supplied = .error issue := by
  obtain ⟨hnull, hgiven⟩ := h
  cases hget : supplied.get? s.name with
  | none =>
    have hdefault : s.reread.default = none := by simp [reread, hnull, Json.isNull]
    exact ⟨by simp only [settle, hget, hnull],
      .missing s.name, by simp only [settle, reread_name, hget, hdefault]⟩
  | some value =>
    obtain ⟨rfl, hkind⟩ := hgiven value hget
    have hadmits : s.coerce .null = some .null := by
      simp [coerce, admitsNull, isRequired, hnull]
    exact ⟨by simp only [settle, hget, hadmits], .wrongType s.name s.kind.text (Json.null).describe,
      by simp only [settle, reread_name, reread_kind, hget, coerce_null_reread hnull hkind]⟩

theorem settle_reread_of_not_needsNull {s : ParameterSpec} {supplied : Parameters}
    (h : ¬ s.NeedsNull supplied) : s.reread.settle supplied = s.settle supplied := by
  by_cases hnull : s.default = some .null
  · obtain ⟨value, hget, hany⟩ : ∃ value, supplied.get? s.name = some value ∧
        (value = .null → s.kind = .any) := by
      simpa [NeedsNull, hnull] using h
    have hcoerce : s.reread.coerce value = s.coerce value :=
      coerce_congr rfl fun hv => by simp [admitsNull, hany hv]
    simp only [settle, reread_name, reread_kind, hget, hcoerce]
  · rw [(reread_eq_iff s).2 hnull]

theorem issue?_reread_of_needsNull {s : ParameterSpec} {supplied : Parameters}
    (h : s.NeedsNull supplied) :
    s.issue? supplied = none ∧ ∃ issue, s.reread.issue? supplied = some issue := by
  obtain ⟨hok, issue, herror⟩ := settle_reread_of_needsNull h
  exact ⟨by rw [issue?, hok], issue, by rw [issue?, herror]⟩

/-- What is reported about a parameter is still reported. -/
theorem isSome_issue?_reread {s : ParameterSpec} {supplied : Parameters}
    (h : (s.issue? supplied).isSome) : (s.reread.issue? supplied).isSome := by
  by_cases hneeds : s.NeedsNull supplied
  · simp [(issue?_reread_of_needsNull hneeds).1] at h
  · rwa [issue?, settle_reread_of_not_needsNull hneeds]

end ParameterSpec

namespace Schema

/-- The schema as it is read back from its JSON form. -/
def reread (s : Schema) : Schema := { s with params := s.params.map .reread }

theorem reread_eq_iff (s : Schema) :
    s.reread = s ↔ ∀ spec ∈ s.params, spec.default ≠ some .null := by
  obtain ⟨params, allowExtra⟩ := s
  suffices params.map .reread = params ↔ ∀ spec ∈ params, spec.default ≠ some .null by
    simpa [reread] using this
  induction params with
  | nil => simp
  | cons spec rest ih => simp [ParameterSpec.reread_eq_iff, ih]

theorem toJson_reread (s : Schema) : s.reread.toJson = s.toJson := by
  have hspec : ParameterSpec.toJson ∘ ParameterSpec.reread = ParameterSpec.toJson :=
    funext ParameterSpec.toJson_reread
  simp [toJson, reread, hspec]

theorem decode_of_presented {levels : Nat} {s : Schema} {source : Source}
    (hs : ∀ spec ∈ s.params, spec.Writable) (h : s.toJson.PresentedBy source)
    (hdepth : s.toJson.depth ≤ levels) : decode levels source = some s := by
  obtain ⟨levels, rfl, hle⟩ := exists_eq_succ_of_le hdepth
  obtain ⟨_, hfields, _, _, rfl, hparams, _, _, rfl, rfl, rfl⟩ :=
    fields?_of_presented levels h (by simp) (List.Subset.refl _)
  simp only [Json.membersDepth, Nat.max_le] at hle
  have hparams := list?_of_presented hparams hle.1 fun spec hspec _ _ =>
    ParameterSpec.decode_of_presented (hs spec hspec)
  simp only [List.map_cons, List.map_nil] at hfields
  simp [decode, hfields, required, defaulted, hparams, bool?]

theorem decode_toJson {levels : Nat} {s : Schema} {source : Source}
    (h : ∀ spec ∈ s.params, ∀ value ∈ spec.default, value.Fits levels)
    (hsource : s.toJson.PresentedBy source) : decode (levels + 3) source = some s.reread := by
  have hwritable : ∀ spec ∈ s.reread.params, spec.Writable := by
    simp only [reread, List.forall_mem_map]
    exact fun spec hspec =>
      ParameterSpec.writable_reread fun value hv => (Json.fits_iff.1 (h spec hspec value hv)).1
  have hspecs : Json.itemsDepth (s.params.map ParameterSpec.toJson) ≤ levels + 1 := by
    simp only [Json.itemsDepth_le_iff, List.forall_mem_map]
    intro spec hspec
    have hdefault : (Json.ofOption id spec.default).depth ≤ levels := by
      cases hd : spec.default with
      | none => exact Nat.zero_le _
      | some value => exact (Json.fits_iff.1 (h spec hspec value hd)).2
    simpa [ParameterSpec.toJson, ParamKind.toJson, Json.depth, Json.membersDepth] using hdefault
  refine decode_of_presented hwritable (by rwa [toJson_reread]) ?_
  rw [toJson_reread]
  simpa [toJson, Json.depth, Json.membersDepth] using hspecs

/-! ## Validation by the schema read back -/

variable {s : Schema} {supplied : Parameters}

theorem extras_reread : s.reread.extras supplied = s.extras supplied := by
  simp [extras, declares, reread, Function.comp_def]

theorem validate_reread (h : ∀ spec ∈ s.params, ¬ spec.NeedsNull supplied) :
    s.reread.validate supplied = s.validate supplied := by
  have hsettle : ∀ spec ∈ s.params, spec.reread.settle supplied = spec.settle supplied :=
    fun spec hspec => spec.settle_reread_of_not_needsNull (h spec hspec)
  have hissues : s.reread.issues supplied = s.issues supplied := by
    rw [issues_eq, issues_eq, extras_reread, reread, List.filterMap_map]
    congr 1
    exact List.filterMap_congr fun spec hspec => by
      simp [ParameterSpec.issue?, hsettle spec hspec]
  have hsettled : s.reread.settled supplied = s.settled supplied := by
    rw [settled, settled, reread, List.filterMap_map]
    exact List.filterMap_congr fun spec hspec => by simp [hsettle spec hspec]
  rw [validate, validate, hissues, hsettled, extras_reread]

/-- A schema that reports more issues does not judge alike. -/
theorem validate_ne_of_length_lt {t : Schema}
    (h : (s.issues supplied).length < (t.issues supplied).length) :
    t.validate supplied ≠ s.validate supplied := by
  intro heq
  unfold validate at heq
  cases hs : s.issues supplied <;> cases ht : t.issues supplied <;> simp_all

theorem length_issues_reread_lt {spec : ParameterSpec} (hspec : spec ∈ s.params)
    (h : spec.NeedsNull supplied) :
    (s.issues supplied).length < (s.reread.issues supplied).length := by
  have hle : ∀ params : List ParameterSpec, (params.filterMap (·.issue? supplied)).length ≤
      (params.filterMap (·.reread.issue? supplied)).length := by
    intro params
    simp only [List.length_filterMap_eq_countP]
    exact List.countP_mono_left fun spec _ => spec.isSome_issue?_reread
  obtain ⟨before, after, hsplit⟩ := List.append_of_mem hspec
  obtain ⟨hnone, issue, hsome⟩ := spec.issue?_reread_of_needsNull h
  have hbefore := hle before
  have hafter := hle after
  rw [issues_eq, issues_eq, extras_reread, reread, List.filterMap_map, hsplit]
  simp only [List.filterMap_append, List.filterMap_cons, Function.comp_def, hnone, hsome,
    List.length_append, List.length_cons]
  omega

theorem validate_reread_iff : s.reread.validate supplied = s.validate supplied ↔
    ∀ spec ∈ s.params, ¬ spec.NeedsNull supplied :=
  ⟨fun heq _ hspec hneeds => validate_ne_of_length_lt (length_issues_reread_lt hspec hneeds) heq,
    validate_reread⟩

/-- **A schema read back from any presentation of its form** is the same except that a default that
is `null` is gone, which shows exactly in the validation of parameters that need it. -/
theorem decode_eq_reread {levels : Nat} (s : Schema)
    (h : ∀ spec ∈ s.params, ∀ value ∈ spec.default, value.Fits levels) :
    (∀ source, s.toJson.PresentedBy source → decode (levels + 3) source = some s.reread) ∧
      (s.reread = s ↔ ∀ spec ∈ s.params, spec.default ≠ some .null) ∧
      ∀ supplied, s.reread.validate supplied = s.validate supplied ↔
        ∀ spec ∈ s.params, ¬ spec.NeedsNull supplied :=
  ⟨fun _ => decode_toJson h, s.reread_eq_iff, fun _ => validate_reread_iff⟩

/-- A number, a remark that is `null` when it is left out, and limits. -/
def annotated : Schema :=
  ((Schema.addRequired {} "x" .int).addOptional "remark" .str .null).addOptional "limits" .object
    (.object [("high", .array [.null]), ("low", .int 0)])

/-- Both as it is written and with what it says about extra parameters in front. -/
theorem decode_eq_reread_annotated :
    (∀ spec ∈ annotated.params, ∀ value ∈ spec.default, value.Fits 124) ∧
      decode Source.maxDepth (.ofJson annotated.toJson) = some annotated.reread ∧
      decode Source.maxDepth (.object [(some "allow_extra", .bool false),
        (some "params", .ofJson (.array (annotated.params.map (·.toJson))))]) =
          some annotated.reread ∧
      annotated.reread ≠ annotated := by
  have horder : Ascending [("high", Json.array [.null]), ("low", .int 0)] := by decide
  have hnull : Json.null.Fits 124 := trivial
  have hlimits : (Json.object [("high", .array [.null]), ("low", .int 0)]).Fits 124 :=
    ⟨by decide, horder, ⟨by decide, trivial, trivial⟩, trivial, trivial⟩
  have hfits : ∀ spec ∈ annotated.params, ∀ value ∈ spec.default, value.Fits 124 := by
    simp [annotated, addOptional, addRequired, hnull, hlimits]
  obtain ⟨hdecode, hsame, -⟩ := decode_eq_reread annotated hfits
  refine ⟨hfits, hdecode _ (Json.presentedBy_ofJson _), hdecode _ ?_, fun heq => ?_⟩
  · exact ⟨_, rfl, _, _, .swap .., Json.presentedBy_ofJson _, _, _, .refl _, rfl, rfl⟩
  · refine hsame.1 heq ⟨"remark", .str, some .null⟩ ?_ rfl
    simp [annotated, addOptional, addRequired]

/-- A text that is `null` when it is left out. -/
def noted : Schema := Schema.addOptional {} "note" .str .null

/-- The schema of an optional note is read back as one of a required note. -/
theorem decode_eq_reread_noted :
    decode Source.maxDepth (.ofJson noted.toJson) = some (Schema.addRequired {} "note" .str) ∧
      Schema.addRequired {} "note" .str ≠ noted ∧
      noted.validate ∅ = .ok (Dict.empty.insert "note" .null) ∧
      (Schema.addRequired {} "note" .str).validate ∅ = .error ⟨[.missing "note"]⟩ :=
  ⟨by decide +kernel, by decide, rfl, rfl⟩

end Schema

end RunEngine
