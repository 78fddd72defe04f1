import Mathlib.Data.List.Induction
import Mathlib.Data.List.Nodup
import RunEngine.Parameters
import RunEngine.Proofs.Entries

/-!
# What a validation accepts and reports

A spec either yields a value or is violated (`ParameterSpec.Yields`, `ParameterSpec.Violates`):
the parameter supplied under its name is coerced, or else its default stands. A schema admits the
parameters for which every spec yields a value and every name is declared or may be undeclared
(`Schema.Admits`).

**`Schema.validate_spec`** says that exactly the parameters admitted are accepted, what comes out
(`Schema.Settles`), and that the issues of the others are one for each violated spec, in order of
declaration, and one for each name that should not be there, in ascending order
(`Schema.Reports`). A schema that lets undeclared names through reports none of them, also when
it refuses the parameters for something else.
-/

namespace RunEngine

/-! ## One spec -/

namespace ParameterSpec

/-- The value of a parameter: the one supplied, as one of the declared kind, or the default. -/
inductive Yields (s : ParameterSpec) (supplied : Parameters) : Json → Prop
  | coerced {given value : Json} : supplied.get? s.name = some given →
      s.coerce given = some value → Yields s supplied value
  | filled {value : Json} : supplied.get? s.name = none →
      s.default = some value → Yields s supplied value

/-- What is wrong with a parameter that has no value. -/
inductive Violates (s : ParameterSpec) (supplied : Parameters) : ParameterIssue → Prop
  | wrongType {given : Json} : supplied.get? s.name = some given → s.coerce given = none →
      Violates s supplied (.wrongType s.name s.kind.text given.describe)
  | missing : supplied.get? s.name = none → s.default = none →
      Violates s supplied (.missing s.name)

variable {s : ParameterSpec} {supplied : Parameters} {value : Json} {issue : ParameterIssue}

theorem settle_eq_ok_iff : s.settle supplied = .ok value ↔ s.Yields supplied value := by
  constructor
  · intro h
    cases hget : supplied.get? s.name with
    | some given =>
      cases hcoerce : s.coerce given with
      | some coerced =>
        simp only [settle, hget, hcoerce, Except.ok.injEq] at h
        exact .coerced hget (h ▸ hcoerce)
      | none => simp [settle, hget, hcoerce] at h
    | none =>
      cases hdefault : s.default with
      | some default =>
        simp only [settle, hget, hdefault, Except.ok.injEq] at h
        exact .filled hget (h ▸ hdefault)
      | none => simp [settle, hget, hdefault] at h
  · rintro (⟨hget, hcoerce⟩ | ⟨hget, hdefault⟩)
    · simp only [settle, hget, hcoerce]
    · simp only [settle, hget, hdefault]

theorem settle_eq_error_iff :
    s.settle supplied = .error issue ↔ s.Violates supplied issue := by
  constructor
  · intro h
    cases hget : supplied.get? s.name with
    | some given =>
      cases hcoerce : s.coerce given with
      | some coerced => simp [settle, hget, hcoerce] at h
      | none =>
        simp only [settle, hget, hcoerce, Except.error.injEq] at h
        exact h ▸ .wrongType hget hcoerce
    | none =>
      cases hdefault : s.default with
      | some default => simp [settle, hget, hdefault] at h
      | none =>
        simp only [settle, hget, hdefault, Except.error.injEq] at h
        exact h ▸ .missing hget hdefault
  · rintro (⟨hget, hcoerce⟩ | ⟨hget, hdefault⟩)
    · simp only [settle, hget, hcoerce]
    · simp only [settle, hget, hdefault]

/-- What a validation reports about the parameter. -/
def issue? (s : ParameterSpec) (supplied : Parameters) : Option ParameterIssue :=
  match s.settle supplied with
  | .error issue => some issue
  | .ok _ => none

theorem issue?_eq_some_iff : s.issue? supplied = some issue ↔ s.Violates supplied issue := by
  rw [← settle_eq_error_iff, issue?]
  cases s.settle supplied <;> simp

theorem issue?_eq_none_iff : s.issue? supplied = none ↔ ∃ value, s.Yields supplied value := by
  simp only [← settle_eq_ok_iff, issue?]
  cases s.settle supplied <;> simp

/-- A parameter has one value. -/
theorem Yields.unique {other : Json} (h : s.Yields supplied value)
    (h' : s.Yields supplied other) : value = other :=
  Except.ok.inj ((settle_eq_ok_iff.2 h).symm.trans (settle_eq_ok_iff.2 h'))

theorem Violates.not_yields (h : s.Violates supplied issue) : ¬ s.Yields supplied value :=
  fun h' => by simpa using (settle_eq_error_iff.2 h).symm.trans (settle_eq_ok_iff.2 h')

end ParameterSpec

/-! ## All specs in order -/

/-- The issues of some specs: one for each that is violated, in the order of the specs. -/
inductive Faults (supplied : Parameters) : List ParameterSpec → List ParameterIssue → Prop
  | nil : Faults supplied [] []
  | yields {spec : ParameterSpec} {value : Json} {specs : List ParameterSpec}
      {issues : List ParameterIssue} : spec.Yields supplied value →
      Faults supplied specs issues → Faults supplied (spec :: specs) issues
  | violates {spec : ParameterSpec} {issue : ParameterIssue} {specs : List ParameterSpec}
      {issues : List ParameterIssue} : spec.Violates supplied issue →
      Faults supplied specs issues → Faults supplied (spec :: specs) (issue :: issues)

namespace Schema

variable {s : Schema} {supplied settled : Parameters}

/-- Some spec has that name. -/
def Declares (s : Schema) (name : String) : Prop := ∃ spec ∈ s.params, spec.name = name

theorem declares_iff {name : String} : s.declares name ↔ s.Declares name := by
  simp [declares, Declares]

/-- Every spec yields a value, and there is no name that should not be there. -/
def Admits (s : Schema) (supplied : Parameters) : Prop :=
  (∀ spec ∈ s.params, ∃ value, spec.Yields supplied value) ∧
    (s.allowExtra = true ∨ ∀ name ∈ supplied.keys, s.Declares name)

/-- The parameters that come out of a validation. -/
structure Settles (s : Schema) (supplied settled : Parameters) : Prop where
  names : ∀ name, name ∈ settled.keys ↔
    s.Declares name ∨ (s.allowExtra = true ∧ name ∈ supplied.keys)
  untouched : ∀ name ∈ settled.keys, ¬ s.Declares name →
    settled.get? name = supplied.get? name
  last : ∀ earlier spec later, s.params = earlier ++ spec :: later →
    (∀ other ∈ later, other.name ≠ spec.name) →
      ∃ value, spec.Yields supplied value ∧ settled.get? spec.name = some value

/-- The issues that a validation reports: those of the specs, then the names that should not be
there in ascending order of their bytes. -/
def Reports (s : Schema) (supplied : Parameters) (issues : List ParameterIssue) : Prop :=
  ∃ (faults : List ParameterIssue) (names : List String),
    issues = faults ++ names.map .unexpected ∧ Faults supplied s.params faults ∧
    (names.Pairwise fun a b => Text.bytes a < Text.bytes b) ∧
    ∀ name, name ∈ names ↔ s.allowExtra = false ∧ name ∈ supplied.keys ∧ ¬ s.Declares name

/-! ## Issues -/

theorem Faults.eq_nil_iff {specs : List ParameterSpec} {issues : List ParameterIssue}
    (h : Faults supplied specs issues) :
    issues = [] ↔ ∀ spec ∈ specs, ∃ value, spec.Yields supplied value := by
  induction h with
  | nil => simp
  | yields hyields _ ih =>
    rw [ih, List.forall_mem_cons]
    exact (and_iff_right ⟨_, hyields⟩).symm
  | violates hviolates _ _ =>
    have hnone : ¬ ∃ value, ParameterSpec.Yields _ supplied value :=
      fun ⟨_, hyields⟩ => hviolates.not_yields hyields
    simp [hnone]

/-- Everything reported about the specs. -/
theorem faults_filterMap (supplied : Parameters) : ∀ specs : List ParameterSpec,
    Faults supplied specs (specs.filterMap (·.issue? supplied))
  | [] => .nil
  | spec :: rest => by
    have ih := faults_filterMap supplied rest
    cases h : spec.issue? supplied with
    | none =>
      obtain ⟨value, hyields⟩ := ParameterSpec.issue?_eq_none_iff.1 h
      simpa [h] using Faults.yields hyields ih
    | some issue =>
      simpa [h] using Faults.violates (ParameterSpec.issue?_eq_some_iff.1 h) ih

theorem issues_eq (s : Schema) : s.issues supplied =
    s.params.filterMap (·.issue? supplied) ++
      if s.allowExtra then [] else (s.extras supplied).map fun e => .unexpected e.1 := rfl

theorem mem_extras {name : String} {value : Json} : (name, value) ∈ s.extras supplied ↔
    supplied.get? name = some value ∧ ¬ s.Declares name := by
  simp [extras, Dict.mem_entries_iff, ← declares_iff]

theorem mem_names_extras {name : String} : name ∈ (s.extras supplied).map (·.1) ↔
    name ∈ supplied.keys ∧ ¬ s.Declares name := by
  rw [Dict.mem_keys_iff, Option.isSome_iff_exists]
  constructor
  · intro h
    obtain ⟨⟨_, value⟩, hmem, rfl⟩ := List.mem_map.1 h
    obtain ⟨hget, hnot⟩ := mem_extras.1 hmem
    exact ⟨⟨value, hget⟩, hnot⟩
  · rintro ⟨⟨value, hget⟩, hnot⟩
    exact List.mem_map.2 ⟨(name, value), mem_extras.2 ⟨hget, hnot⟩, rfl⟩

theorem reports_issues (s : Schema) (supplied : Parameters) :
    s.Reports supplied (s.issues supplied) := by
  refine ⟨_, if s.allowExtra then [] else (s.extras supplied).map (·.1), ?_,
    faults_filterMap supplied s.params, ?_, fun name => ?_⟩
  · cases h : s.allowExtra <;> simp [issues_eq, h]
  · cases s.allowExtra with
    | true => exact List.Pairwise.nil
    | false =>
      have hascending : Ascending (s.extras supplied) := supplied.ascending.filter _
      exact List.pairwise_map.2 (hascending.imp Text.lt_iff_bytes_lt.1)
  · cases s.allowExtra <;> simp only [Bool.false_eq_true, if_false, if_true, mem_names_extras,
      List.not_mem_nil, true_and, false_and, Bool.true_eq_false]

theorem Reports.eq_nil_iff {issues : List ParameterIssue} (h : s.Reports supplied issues) :
    issues = [] ↔ s.Admits supplied := by
  obtain ⟨faults, names, rfl, hfaults, -, hnames⟩ := h
  have hnone : names = [] ↔ (s.allowExtra = true ∨ ∀ name ∈ supplied.keys, s.Declares name) := by
    rw [List.eq_nil_iff_forall_not_mem]
    simp only [hnames]
    cases s.allowExtra <;> simp
  rw [List.append_eq_nil_iff, List.map_eq_nil_iff, Faults.eq_nil_iff hfaults, hnone, Admits]

/-! ## The values -/

theorem mem_settled {name : String} {value : Json} (h : (name, value) ∈ s.settled supplied) :
    s.Declares name := by
  obtain ⟨spec, hspec, heq⟩ := List.mem_filterMap.1 h
  cases hsettle : spec.settle supplied with
  | ok _ =>
    simp only [hsettle, Option.some.injEq, Prod.mk.injEq] at heq
    exact ⟨spec, hspec, heq.1⟩
  | error _ => simp [hsettle] at heq

theorem lookup_settled_of_not_declares {name : String} (h : ¬ s.Declares name) :
    Dict.lookup name (s.settled supplied).reverse = none := by
  rw [Dict.lookup_eq_none_iff, List.map_reverse, List.mem_reverse]
  intro hname
  obtain ⟨⟨_, value⟩, hmem, rfl⟩ := List.mem_map.1 hname
  exact h (mem_settled hmem)

/-- Of several specs with one name the last one gives the value. -/
theorem lookup_settled_of_last {earlier later : List ParameterSpec} {spec : ParameterSpec}
    {value : Json} (hparams : s.params = earlier ++ spec :: later)
    (hlater : ∀ other ∈ later, other.name ≠ spec.name) (hyields : spec.Yields supplied value) :
    Dict.lookup spec.name (s.settled supplied).reverse = some value := by
  have hrest : ¬ Declares { params := later } spec.name := fun ⟨other, hmem, hname⟩ =>
    hlater other hmem hname
  have hsplit : s.settled supplied = settled { params := earlier } supplied ++
      (spec.name, value) :: settled { params := later } supplied := by
    simp [settled, hparams, ParameterSpec.settle_eq_ok_iff.2 hyields]
  rw [hsplit, List.reverse_append, Dict.lookup_append, List.reverse_cons, Dict.lookup_append,
    lookup_settled_of_not_declares hrest]
  simp [Dict.lookup]

theorem lookup_extras_of_declares {name : String} (h : s.Declares name) :
    Dict.lookup name (s.extras supplied).reverse = none := by
  rw [Dict.lookup_eq_none_iff, List.map_reverse, List.mem_reverse, mem_names_extras]
  exact fun hname => hname.2 h

theorem lookup_extras_of_not_declares {name : String} (h : ¬ s.Declares name) :
    Dict.lookup name (s.extras supplied).reverse = supplied.get? name := by
  have hnodup : ((s.extras supplied).reverse.map (·.1)).Nodup := by
    rw [List.map_reverse, List.nodup_reverse]
    exact supplied.nodup_keys.sublist (List.filter_sublist.map _)
  refine Option.ext fun value => ?_
  rw [Dict.lookup_eq_some_iff hnodup, List.mem_reverse, mem_extras]
  exact and_iff_left h

theorem get?_validated {name : String} :
    (Dict.ofList (s.settled supplied ++ s.extras supplied)).get? name =
      (Dict.lookup name (s.extras supplied).reverse).or
        (Dict.lookup name (s.settled supplied).reverse) := by
  rw [Dict.get?_ofList, List.reverse_append, Dict.lookup_append]

/-- The last spec with a name that is declared. -/
theorem Declares.exists_last {name : String} (h : s.Declares name) :
    ∃ earlier spec later, s.params = earlier ++ spec :: later ∧ spec.name = name ∧
      ∀ other ∈ later, other.name ≠ spec.name := by
  obtain ⟨params, allowExtra⟩ := s
  obtain ⟨spec, hspec, rfl⟩ := h
  induction params using List.reverseRecOn with
  | nil => simp at hspec
  | append_singleton front other ih =>
    by_cases hname : other.name = spec.name
    · exact ⟨front, other, [], rfl, hname, by simp⟩
    · have hfront : spec ∈ front := by
        rcases List.mem_append.1 hspec with h | h
        · exact h
        · simp only [List.mem_singleton] at h
          exact absurd (h ▸ rfl) hname
      obtain ⟨earlier, last, later, hparams, hlast, hlater⟩ := ih hfront
      refine ⟨earlier, last, later ++ [other], by simp_all, hlast, fun t ht => ?_⟩
      rcases List.mem_append.1 ht with h | h
      · exact hlater t h
      · simp_all

theorem settles_of_admits (h : s.Admits supplied) :
    s.Settles supplied (.ofList (s.settled supplied ++ s.extras supplied)) := by
  obtain ⟨hyields, hextra⟩ := h
  have hlast : ∀ earlier spec later, s.params = earlier ++ spec :: later →
      (∀ other ∈ later, other.name ≠ spec.name) → ∃ value, spec.Yields supplied value ∧
        (Dict.ofList (s.settled supplied ++ s.extras supplied)).get? spec.name = some value := by
    intro earlier spec later hparams hlater
    have hspec : spec ∈ s.params := by simp [hparams]
    obtain ⟨value, hvalue⟩ := hyields spec hspec
    refine ⟨value, hvalue, ?_⟩
    rw [get?_validated, lookup_extras_of_declares ⟨spec, hspec, rfl⟩,
      lookup_settled_of_last hparams hlater hvalue]
    rfl
  have hother : ∀ name, ¬ s.Declares name →
      (Dict.ofList (s.settled supplied ++ s.extras supplied)).get? name = supplied.get? name := by
    intro name hname
    rw [get?_validated, lookup_extras_of_not_declares hname,
      lookup_settled_of_not_declares hname, Option.or_none]
  refine ⟨fun name => ?_, fun name _ => hother name, hlast⟩
  by_cases hname : s.Declares name
  · obtain ⟨earlier, spec, later, hparams, rfl, hlater⟩ := hname.exists_last
    obtain ⟨value, -, hget⟩ := hlast earlier spec later hparams hlater
    simp [Dict.mem_keys_iff, hget, hname]
  · rw [Dict.mem_keys_iff, hother name hname, ← Dict.mem_keys_iff]
    constructor
    · intro hmem
      exact .inr ⟨hextra.resolve_right fun hall => hname (hall name hmem), hmem⟩
    · rintro (h | h)
      · exact absurd h hname
      · exact h.2

/-! ## Validation -/

theorem validate_of_admits (h : s.Admits supplied) :
    s.validate supplied = .ok (.ofList (s.settled supplied ++ s.extras supplied)) := by
  rw [validate, (reports_issues s supplied).eq_nil_iff.2 h]

theorem validate_of_not_admits (h : ¬ s.Admits supplied) :
    s.validate supplied = .error ⟨s.issues supplied⟩ := by
  rw [validate]
  split
  · rename_i hnil
    exact absurd ((reports_issues s supplied).eq_nil_iff.1 hnil) h
  · rfl

theorem admits_of_validate (h : s.validate supplied = .ok settled) : s.Admits supplied := by
  by_contra hnot
  simp [validate_of_not_admits hnot] at h

theorem settles_of_validate (h : s.validate supplied = .ok settled) :
    s.Settles supplied settled := by
  have hadmits := admits_of_validate h
  obtain rfl := Except.ok.inj ((validate_of_admits hadmits).symm.trans h)
  exact settles_of_admits hadmits

theorem reports_of_validate {error : ValidationError} (h : s.validate supplied = .error error) :
    s.Reports supplied error.issues := by
  have hnot : ¬ s.Admits supplied := fun hadmits => by simp [validate_of_admits hadmits] at h
  obtain rfl := Except.error.inj ((validate_of_not_admits hnot).symm.trans h)
  exact reports_issues s supplied

/-- Exactly the admitted parameters are accepted. What comes out has the declared names and, where
others are allowed, those supplied, each with the value its last declaration gives or else the one
supplied. What is reported of the rest is every violated spec in order of declaration, and then
every name that should not be there in ascending order. -/
theorem validate_spec (s : Schema) (supplied : Parameters) :
    ((∃ settled, s.validate supplied = .ok settled) ↔ s.Admits supplied) ∧
      (∀ settled, s.validate supplied = .ok settled → s.Settles supplied settled) ∧
      ∀ error, s.validate supplied = .error error → s.Reports supplied error.issues :=
  ⟨⟨fun ⟨_, h⟩ => admits_of_validate h, fun h => ⟨_, validate_of_admits h⟩⟩,
    fun _ => settles_of_validate, fun _ => reports_of_validate⟩

/-- A number and a remark, the first declared again as a text. -/
def redeclared : Schema :=
  ((Schema.addRequired {} "x" .int).addOptional "remark" .str .null).addRequired "x" .str

/-- Both declarations of the number want a text that is a numeral, and the later one gives its
value; of a flag and two names that should not be there every one is reported. -/
theorem validate_spec_redeclared :
    redeclared.Settles (Dict.empty.insert "x" (.string "7"))
        ((Dict.empty.insert "remark" .null).insert "x" (.string "7")) ∧
      redeclared.Reports
        (((Dict.empty.insert "x" (.bool true)).insert "é" .null).insert "z" (.int 1))
        [.wrongType "x" "int" "bool true", .wrongType "x" "str" "bool true", .unexpected "z",
          .unexpected "é"] :=
  ⟨(validate_spec redeclared (Dict.empty.insert "x" (.string "7"))).2.1 _ (by decide +kernel),
    (validate_spec redeclared
      (((Dict.empty.insert "x" (.bool true)).insert "é" .null).insert "z" (.int 1))).2.2
        ⟨_⟩ (by decide +kernel)⟩

/-- A number, and whatever else is supplied. -/
def lenient : Schema := { Schema.addRequired {} "x" .int with allowExtra := true }

/-- Where undeclared names are allowed, none is reported beside the number that is missing. -/
theorem validate_lenient :
    lenient.validate (Dict.empty.insert "z" (.bool true)) = .error ⟨[.missing "x"]⟩ ∧
      "z" ∈ (Dict.empty.insert "z" (Json.bool true)).keys ∧ ¬ lenient.Declares "z" ∧
      .unexpected "z" ∉ [ParameterIssue.missing "x"] := by
  refine ⟨by decide +kernel, by decide +kernel, ?_, by decide⟩
  simp [Declares, lenient, addRequired]

end Schema

end RunEngine
