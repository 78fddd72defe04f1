import Mathlib.Data.List.Basic
import RunEngine.Proofs.Validation

/-!
# Integers written as texts

`Text.WritesInt` says which integer a text writes: optional white space, an optional sign, decimal
digits, optional white space. A parameter of kind `int` may be supplied as such a text.

**`readInt64_trim_eq_some_iff`** says that a text is read exactly if it writes an integer that fits
a signed 64-bit word, and as that integer.

**`Schema.validate_integer_text`** says what this means for a validation: such a text stands for
the number it writes, and every other text is reported. A number may also be unsigned, and the
numbers past the signed ones are refused as texts (`Schema.validate_unsigned_text`).
-/

namespace RunEngine

namespace Text

theorem toNat_of_isDigit {c : Char} (h : c.isDigit) : 48 ≤ c.toNat ∧ c.toNat ≤ 57 :=
  Char.isDigit_iff_toNat.1 h

theorem isBlank_of_isDigit {c : Char} (h : c.isDigit) : isBlank c = false := by
  have hc := toNat_of_isDigit h
  simp only [isBlank, Bool.or_eq_false_iff, Bool.and_eq_false_iff, decide_eq_false_iff_not,
    beq_eq_false_iff_ne]
  omega

/-! ## Decimal digits -/

/-- The number that decimal digits write, each counted for its place. -/
def decimal : List Char → Nat
  | [] => 0
  | c :: rest => (c.toNat - '0'.toNat) * 10 ^ rest.length + decimal rest

/-- One or more decimal digits. -/
def IsDecimal (cs : List Char) : Prop := cs ≠ [] ∧ ∀ c ∈ cs, c.isDigit

instance (cs : List Char) : Decidable (IsDecimal cs) :=
  decidable_of_iff (cs ≠ [] ∧ cs.all Char.isDigit) (by simp [IsDecimal])

theorem digit?_ten (c : Char) :
    digit? 10 c = if c.isDigit then some (c.toNat - '0'.toNat) else none := by
  by_cases hdigit : c.isDigit
  · have hlt : c.toNat - 48 < 10 := by
      have hc := toNat_of_isDigit hdigit
      omega
    simp [digit?, hdigit, Option.filter, hlt]
  · simp only [digit?, hdigit]
    by_cases hlower : c.isLower <;> by_cases hupper : c.isUpper <;>
      simp [hlower, hupper, Option.filter]

theorem numberFrom_ten {n m : Nat} {cs : List Char} : numberFrom 10 n cs = some m ↔
    (∀ c ∈ cs, c.isDigit) ∧ m = n * 10 ^ cs.length + decimal cs := by
  induction cs generalizing n with
  | nil => simp [numberFrom, decimal, @eq_comm _ n]
  | cons c rest ih =>
    by_cases hdigit : c.isDigit
    · have hplaces : ∀ d, (n * 10 + d) * 10 ^ rest.length + decimal rest =
          n * 10 ^ (rest.length + 1) + (d * 10 ^ rest.length + decimal rest) := fun d => by
        rw [Nat.add_mul, Nat.mul_assoc, Nat.mul_comm 10, ← Nat.pow_succ, Nat.add_assoc]
      simp [numberFrom, digit?_ten, hdigit, ih, decimal, hplaces]
    · simp [numberFrom, digit?_ten, hdigit]

theorem natural?_ten {n : Nat} {cs : List Char} :
    natural? 10 cs = some n ↔ IsDecimal cs ∧ n = decimal cs := by
  cases cs with
  | nil => simp [natural?, IsDecimal]
  | cons c rest => simp [natural?, IsDecimal, numberFrom_ten]

/-! ## Integers -/

/-- A sign or none and decimal digits write an integer. -/
inductive Signed : List Char → Int → Prop
  | plain {digits : List Char} : IsDecimal digits → Signed digits (decimal digits)
  | plus {digits : List Char} : IsDecimal digits → Signed ('+' :: digits) (decimal digits)
  | minus {digits : List Char} : IsDecimal digits → Signed ('-' :: digits) (-(decimal digits))

/-- An integer written with a sign or none, perhaps between white space. -/
def WritesInt (cs : List Char) (n : Int) : Prop :=
  ∃ before written after, cs = before ++ written ++ after ∧ Signed written n ∧
    (∀ c ∈ before, isBlank c) ∧ ∀ c ∈ after, isBlank c

theorem Signed.isBlank {cs : List Char} {n : Int} (h : Signed cs n) :
    ∀ c ∈ cs, isBlank c = false := by
  have hdigits : ∀ {digits}, IsDecimal digits → ∀ c ∈ digits, Text.isBlank c = false :=
    fun hd c hc => isBlank_of_isDigit (hd.2 c hc)
  cases h with
  | plain hd => exact hdigits hd
  | plus hd | minus hd => exact List.forall_mem_cons.2 ⟨by decide, hdigits hd⟩

/-- A text writes an integer exactly if it is one once it is trimmed. -/
theorem writesInt_iff {cs : List Char} {n : Int} : WritesInt cs n ↔ Signed (trim cs) n := by
  constructor
  · rintro ⟨before, written, after, rfl, hsigned, hbefore, hafter⟩
    have hblank := hsigned.isBlank
    rwa [trim_append hbefore (fun c hc => hblank c (List.mem_of_head? hc))
      (fun c hc => hblank c (List.mem_of_getLast? hc)) hafter]
  · intro h
    obtain ⟨before, after, hcs, hbefore, hafter⟩ := exists_trim cs
    exact ⟨before, trim cs, after, hcs, h, hbefore, hafter⟩

end Text

/-- The integers that fit a signed 64-bit word. -/
def IsInt64 (n : Int) : Prop := -0x8000000000000000 ≤ n ∧ n < 0x8000000000000000

instance (n : Int) : Decidable (IsInt64 n) := inferInstanceAs (Decidable (_ ∧ _))

/-- A text has its digits and a sign that is applied to their number. -/
theorem exists_sign (cs : List Char) : ∃ (sign : Nat → Int) (digits : List Char),
    (∀ n, Text.Signed cs n ↔ Text.IsDecimal digits ∧ n = sign (Text.decimal digits)) ∧
      readInt64 cs = ((Text.natural? 10 digits).map sign).bind fun n =>
        if -0x8000000000000000 ≤ n ∧ n < 0x8000000000000000 then some n else none := by
  by_cases hminus : ∃ rest, cs = '-' :: rest
  · obtain ⟨rest, rfl⟩ := hminus
    refine ⟨fun n => -n, rest, fun n => ⟨?_, ?_⟩, ?_⟩
    · rintro (hd | hd | hd)
      · simp [Text.IsDecimal] at hd
      · exact ⟨hd, rfl⟩
    · rintro ⟨hd, rfl⟩
      exact .minus hd
    · cases h : Text.natural? 10 rest <;> simp only [readInt64, h] <;> rfl
  by_cases hplus : ∃ rest, cs = '+' :: rest
  · obtain ⟨rest, rfl⟩ := hplus
    refine ⟨fun n => n, rest, fun n => ⟨?_, ?_⟩, ?_⟩
    · rintro (hd | hd | hd)
      · simp [Text.IsDecimal] at hd
      · exact ⟨hd, rfl⟩
    · rintro ⟨hd, rfl⟩
      exact .plus hd
    · cases h : Text.natural? 10 rest <;> simp only [readInt64, h] <;> rfl
  · refine ⟨fun n => n, cs, fun n => ⟨?_, ?_⟩, ?_⟩
    · rintro (hd | hd | hd)
      · exact ⟨hd, rfl⟩
      · exact absurd ⟨_, rfl⟩ hplus
      · exact absurd ⟨_, rfl⟩ hminus
    · rintro ⟨hd, rfl⟩
      exact .plain hd
    · unfold readInt64
      split
      · exact absurd ⟨_, rfl⟩ hminus
      · exact absurd ⟨_, rfl⟩ hplus
      · cases Text.natural? 10 cs <;> rfl

theorem readInt64_eq_some_iff {cs : List Char} {n : Int} :
    readInt64 cs = some n ↔ Text.Signed cs n ∧ IsInt64 n := by
  obtain ⟨sign, digits, hsigned, hread⟩ := exists_sign cs
  simp only [hsigned, hread, Option.bind_eq_some_iff, Option.map_eq_some_iff, Text.natural?_ten,
    Option.ite_none_right_eq_some, Option.some.injEq, IsInt64]
  constructor
  · rintro ⟨_, ⟨_, ⟨hd, rfl⟩, rfl⟩, hfits, rfl⟩
    exact ⟨⟨hd, rfl⟩, hfits⟩
  · rintro ⟨⟨hd, rfl⟩, hfits⟩
    exact ⟨_, ⟨_, ⟨hd, rfl⟩, rfl⟩, hfits, rfl⟩

/-- Exactly the texts that write a signed 64-bit integer are read, each as its integer. -/
theorem readInt64_trim_eq_some_iff {cs : List Char} {n : Int} :
    readInt64 (Text.trim cs) = some n ↔ Text.WritesInt cs n ∧ IsInt64 n := by
  rw [readInt64_eq_some_iff, Text.writesInt_iff]

/-! ## Texts for integers -/

namespace ParameterSpec

variable {s : ParameterSpec} {supplied : Parameters} {text : String} {n : Int}

theorem coerce_string_of_int (h : s.kind = .int) (text : String) :
    s.coerce (.string text) = (readInt64 (Text.trim text.toList)).map .int := by
  obtain ⟨_, _, _⟩ := s
  cases h
  rfl

theorem coerce_int_of_int (h : s.kind = .int) (n : Int) :
    s.coerce (.int n) = if isWord n then some (.int n) else none := by
  obtain ⟨_, _, _⟩ := s
  cases h
  rfl

theorem isWord_of_isInt64 (h : IsInt64 n) : isWord n := by
  simp only [isWord, Bool.and_eq_true, decide_eq_true_eq]
  exact ⟨h.1, Int.lt_trans h.2 (by decide)⟩

/-- A text stands for the integer it writes. -/
theorem settle_of_writesInt (hkind : s.kind = .int)
    (htext : supplied.get? s.name = some (.string text)) (hwrites : Text.WritesInt text.toList n)
    (hn : IsInt64 n) : s.settle supplied = .ok (.int n) := by
  refine settle_eq_ok_iff.2 (.coerced htext ?_)
  rw [coerce_string_of_int hkind, readInt64_trim_eq_some_iff.2 ⟨hwrites, hn⟩, Option.map_some]

/-- A number is accepted exactly if it fits a signed or an unsigned word. -/
theorem settle_insert_int (hkind : s.kind = .int) :
    s.settle (supplied.insert s.name (.int n)) = .ok (.int n) ↔ isWord n := by
  have hget : (supplied.insert s.name (.int n)).get? s.name = some (.int n) := by
    rw [Dict.get?_insert, if_pos rfl]
  cases h : isWord n <;> simp [settle, hget, coerce_int_of_int hkind, h]

/-- A text that writes no signed 64-bit integer is not an integer. -/
theorem violates_of_not_writesInt (hkind : s.kind = .int)
    (htext : supplied.get? s.name = some (.string text))
    (h : ∀ n, Text.WritesInt text.toList n → ¬ IsInt64 n) :
    s.Violates supplied (.wrongType s.name "int" (Json.string text).describe) := by
  have hread : readInt64 (Text.trim text.toList) = none :=
    Option.eq_none_iff_forall_ne_some.2 fun n hn =>
      h n (readInt64_trim_eq_some_iff.1 hn).1 (readInt64_trim_eq_some_iff.1 hn).2
  have hcoerce : s.coerce (.string text) = none := by
    rw [coerce_string_of_int hkind, hread, Option.map_none]
  simpa [hkind, ParamKind.text] using Violates.wrongType htext hcoerce

end ParameterSpec

namespace Schema

variable {s : Schema} {spec : ParameterSpec} {supplied other : Parameters}

theorem extras_insert {name : String} (h : s.Declares name) (value : Json) :
    s.extras (supplied.insert name value) = s.extras supplied := by
  have hascending : ∀ given : Parameters, Ascending (s.extras given) := fun given =>
    given.ascending.filter _
  refine Dict.eq_of_mem_iff (hascending _) (hascending _) fun (k, v) => ?_
  rw [mem_extras, mem_extras, Dict.get?_insert]
  refine and_congr_left fun hk => ?_
  rw [if_neg]
  rintro rfl
  exact hk h

/-- A validation sees no more of the parameters than what each spec makes of them and what is not
declared. -/
theorem validate_congr (hextras : s.extras supplied = s.extras other)
    (hsettle : ∀ spec ∈ s.params, spec.settle supplied = spec.settle other) :
    s.validate supplied = s.validate other := by
  have hissues : s.issues supplied = s.issues other := by
    rw [issues_eq, issues_eq, hextras]
    congr 1
    exact List.filterMap_congr fun spec hspec => by
      rw [ParameterSpec.issue?, ParameterSpec.issue?, hsettle spec hspec]
  have hsettled : s.settled supplied = s.settled other :=
    List.filterMap_congr fun spec hspec => by rw [hsettle spec hspec]
  rw [validate, validate, hissues, hsettled, hextras]

theorem mem_issues_of_violates {issue : ParameterIssue} (hspec : spec ∈ s.params)
    (h : spec.Violates supplied issue) : issue ∈ s.issues supplied := by
  rw [issues_eq, List.mem_append, List.mem_filterMap]
  exact .inl ⟨spec, hspec, ParameterSpec.issue?_eq_some_iff.2 h⟩

theorem not_admits_of_violates {issue : ParameterIssue} (hspec : spec ∈ s.params)
    (h : spec.Violates supplied issue) : ¬ s.Admits supplied := fun hadmits =>
  have ⟨_, hyields⟩ := hadmits.1 spec hspec
  h.not_yields hyields

/-- A text for a parameter of kind `int` that writes a signed 64-bit integer stands for that
integer: the parameter has it as its value, and all is as if it had been supplied. Every other
text is refused and named. -/
theorem validate_integer_text {text : String} (hspec : spec ∈ s.params) (hkind : spec.kind = .int)
    (htext : supplied.get? spec.name = some (.string text)) :
    (∀ n, spec.settle (supplied.insert spec.name (.int n)) = .ok (.int n) ↔ isWord n) ∧
      (∀ n, Text.WritesInt text.toList n → IsInt64 n → spec.settle supplied = .ok (.int n) ∧
        ((∀ other ∈ s.params, other.name = spec.name → other.kind = .int) →
          s.validate supplied = s.validate (supplied.insert spec.name (.int n)))) ∧
      ((∀ n, Text.WritesInt text.toList n → ¬ IsInt64 n) →
        ∃ error, s.validate supplied = .error error ∧
          .wrongType spec.name "int" (Json.string text).describe ∈ error.issues) := by
  refine ⟨fun n => spec.settle_insert_int hkind,
    fun n hwrites hn => ⟨spec.settle_of_writesInt hkind htext hwrites hn, fun hall => ?_⟩,
    fun h => ?_⟩
  · refine validate_congr (extras_insert ⟨spec, hspec, rfl⟩ _).symm fun other hother => ?_
    by_cases hname : other.name = spec.name
    · have hint := hall other hother hname
      rw [← hname] at htext ⊢
      rw [other.settle_of_writesInt hint htext hwrites hn,
        (other.settle_insert_int hint).2 (ParameterSpec.isWord_of_isInt64 hn)]
    · have hget : (supplied.insert spec.name (.int n)).get? other.name =
          supplied.get? other.name := by
        rw [Dict.get?_insert, if_neg (Ne.symm hname)]
      simp only [ParameterSpec.settle, hget]
  · have hviolates := spec.violates_of_not_writesInt hkind htext h
    exact ⟨_, validate_of_not_admits (not_admits_of_violates hspec hviolates),
      mem_issues_of_violates hspec hviolates⟩

/-- A number and nothing else. -/
def counted : Schema := Schema.addRequired {} "n" .int

/-- The least signed number, between white space. -/
theorem validate_integer_text_least :
    Text.WritesInt "\t-9223372036854775808\u3000".toList (-9223372036854775808) ∧
      counted.validate (Dict.empty.insert "n" (.string "\t-9223372036854775808\u3000")) =
        .ok (Dict.empty.insert "n" (.int (-9223372036854775808))) := by
  have hdigits : Text.IsDecimal "9223372036854775808".toList := by decide +kernel
  have hwrites : Text.WritesInt "\t-9223372036854775808\u3000".toList (-9223372036854775808) :=
    ⟨['\t'], _, ['\u3000'], by decide +kernel, .minus hdigits,
      List.forall_mem_singleton.2 (by decide), List.forall_mem_singleton.2 (by decide)⟩
  have hspec : (⟨"n", .int, none⟩ : ParameterSpec) ∈ counted.params := List.mem_singleton.2 rfl
  obtain ⟨-, hstands, -⟩ := validate_integer_text hspec rfl
    (Dict.get?_insert Dict.empty "n" "n" (Json.string "\t-9223372036854775808\u3000"))
  obtain ⟨-, hsame⟩ := hstands _ hwrites (by decide)
  refine ⟨hwrites, (hsame fun other hother _ => ?_).trans (by decide +kernel)⟩
  rw [List.mem_singleton.1 hother]

/-- The first number past the signed ones is an integer as a number and none as a text. -/
theorem validate_unsigned_text :
    Text.WritesInt "9223372036854775808".toList 9223372036854775808 ∧
      counted.validate (Dict.empty.insert "n" (.int 9223372036854775808)) =
        .ok (Dict.empty.insert "n" (.int 9223372036854775808)) ∧
      counted.validate (Dict.empty.insert "n" (.string "9223372036854775808")) =
        .error ⟨[.wrongType "n" "int" "string \"9223372036854775808\""]⟩ := by
  have hdigits : Text.IsDecimal "9223372036854775808".toList := by decide +kernel
  have hwrites : Text.WritesInt "9223372036854775808".toList 9223372036854775808 :=
    ⟨[], _, [], by decide +kernel, .plain hdigits, List.forall_mem_nil _, List.forall_mem_nil _⟩
  exact ⟨hwrites, by decide +kernel, by decide +kernel⟩

end Schema

end RunEngine
