import Mathlib.Data.List.Forall2
import RunEngine.RunName

/-!
# Templates of run names

A template is written from segments: literal text, in which every brace is doubled, and
placeholders, which are keys between two braces. A key has no closing brace in it and begins with no
opening one; it names the parameter that is left when the white space around it is trimmed.

**`render_write`** says that a template that is written from segments gives what these stand for,
one after the other, or reports the first parameter that is missing. And every template is one of
two things: written from segments whose parameters are all supplied, and then it gives a name; or it
begins like that, and goes on with a fault (`RunName.Fault`), and then the fault is reported.

A text is read from the left. As long as there is no fault, it begins with a segment
(`exists_reading`), and reading a segment adds what it stands for (`scan_written`).
-/

namespace RunEngine.RunName

/-! ## The grammar -/

/-- What stands between the braces of a placeholder. -/
structure Key where
  text : List Char
  noClose : '\x7d' ∉ text
  noOpen : text.head? ≠ some '\x7b'

/-- The parameter that a key names: the key without the white space around it. -/
def Key.Names (key : Key) (name : String) : Prop :=
  ∃ before after, key.text = before ++ name.toList ++ after ∧
    (∀ c ∈ before, Text.isBlank c) ∧ (∀ c ∈ name.toList.head?, Text.isBlank c = false) ∧
    (∀ c ∈ name.toList.getLast?, Text.isBlank c = false) ∧ ∀ c ∈ after, Text.isBlank c

/-- A part of a template. -/
inductive Segment where
  | literal (text : String)
  | placeholder (key : Key)

/-- A character of a literal. -/
def doubled (c : Char) : List Char := if c = '\x7b' ∨ c = '\x7d' then [c, c] else [c]

namespace Segment

/-- A segment as it is written in a template. -/
def written : Segment → List Char
  | literal text => text.toList.flatMap doubled
  | placeholder key => '\x7b' :: key.text ++ ['\x7d']

/-- The text that a segment stands for: a literal for itself, and a placeholder for the parameter
that it names. -/
inductive Fills (parameters : Parameters) : Segment → String → Prop
  | literal (text : String) : Fills parameters (literal text) text
  | string {key : Key} {name text : String} : key.Names name →
      parameters.get? name = some (.string text) → Fills parameters (placeholder key) text
  | value {key : Key} {name : String} {value : Json} : key.Names name →
      parameters.get? name = some value → (∀ text, value ≠ .string text) →
      Fills parameters (placeholder key) value.compact

/-- The segment is a placeholder for a parameter that is not supplied. -/
inductive Lacks (parameters : Parameters) : Segment → String → Prop
  | placeholder {key : Key} {name : String} : key.Names name → parameters.get? name = none →
      Lacks parameters (placeholder key) name

end Segment

/-- The template that is written from segments. -/
def write (segments : List Segment) : List Char := segments.flatMap Segment.written

/-- What is wrong with a template at a place where a segment should begin. -/
inductive Fault (template : String) (parameters : Parameters) : List Char → RunNameError → Prop
  /-- A placeholder for a parameter that is not supplied. -/
  | missing {segment : Segment} {name : String} {rest : List Char} :
      segment.Lacks parameters name →
      Fault template parameters (segment.written ++ rest) (.unknownParameter name)
  /-- A placeholder that does not end. -/
  | unclosed (key : Key) : Fault template parameters ('\x7b' :: key.text) (.unclosed template)
  /-- A closing brace that is not doubled. -/
  | unmatched {rest : List Char} : rest.head? ≠ some '\x7d' →
      Fault template parameters ('\x7d' :: rest) (.unmatched template)

variable {template : String} {parameters : Parameters} {key : Key} {segment : Segment}
  {segments : List Segment} {texts : List String} {cs rest : List Char} {name text : String}
  {error : RunNameError}

/-! ## Placeholders -/

theorem Key.names_iff : key.Names name ↔ name = String.ofList (Text.trim key.text) := by
  constructor
  · rintro ⟨before, after, hkey, hbefore, hfirst, hlast, hafter⟩
    rw [hkey, Text.trim_append hbefore hfirst hlast hafter, String.ofList_toList]
  · rintro rfl
    obtain ⟨before, after, hkey, hbefore, hafter⟩ := Text.exists_trim key.text
    rw [Names, String.toList_ofList]
    exact ⟨before, after, hkey, hbefore, fun _ => Text.isBlank_of_mem_head?_trim,
      fun _ => Text.isBlank_of_mem_getLast?_trim, hafter⟩

/-- A key stands for a parameter that is supplied, or names one that is not. -/
theorem Key.fills_or_lacks (key : Key) (parameters : Parameters) :
    (∃ text, (Segment.placeholder key).Fills parameters text) ∨
      ∃ name, (Segment.placeholder key).Lacks parameters name := by
  have hkey : key.Names (String.ofList (Text.trim key.text)) := Key.names_iff.2 rfl
  cases hvalue : parameters.get? (String.ofList (Text.trim key.text)) with
  | none => exact .inr ⟨_, .placeholder hkey hvalue⟩
  | some value =>
    cases value with
    | string text => exact .inl ⟨text, .string hkey hvalue⟩
    | _ => exact .inl ⟨_, .value hkey hvalue (by simp)⟩

theorem Segment.fills_or_lacks (segment : Segment) (parameters : Parameters) :
    (∃ text, segment.Fills parameters text) ∨ ∃ name, segment.Lacks parameters name := by
  cases segment with
  | literal text => exact .inl ⟨text, .literal text⟩
  | placeholder key => exact key.fills_or_lacks parameters

theorem placeholder_of_fills (h : (Segment.placeholder key).Fills parameters text) :
    placeholder parameters key.text = .ok text.toList := by
  cases h with
  | string hkey hvalue =>
    obtain rfl := Key.names_iff.1 hkey
    simp only [placeholder, hvalue, valueText]
  | @value _ _ value hkey hvalue hother =>
    obtain rfl := Key.names_iff.1 hkey
    have htext : valueText value = value.compact := by
      cases value with
      | string text => exact absurd rfl (hother text)
      | _ => rfl
    simp only [placeholder, hvalue, htext]

theorem placeholder_of_lacks (h : (Segment.placeholder key).Lacks parameters name) :
    placeholder parameters key.text = .error (.unknownParameter name) := by
  cases h with
  | placeholder hkey hvalue =>
    obtain rfl := Key.names_iff.1 hkey
    simp only [placeholder, hvalue]

/-! ## Reading -/

theorem scan_cons {c : Char} (hopen : c ≠ '\x7b') (hclose : c ≠ '\x7d') :
    scan template parameters (c :: rest) = (scan template parameters rest).map (c :: ·) := by
  rw [scan] <;> simp [hopen, hclose]

/-- After an opening brace that is not doubled a key is read. -/
theorem scan_open (h : rest.head? ≠ some '\x7b') :
    scan template parameters ('\x7b' :: rest) = scanKey template parameters [] rest := by
  rw [scan]
  rintro rest' rfl
  exact h rfl

theorem scan_unmatched (h : rest.head? ≠ some '\x7d') :
    scan template parameters ('\x7d' :: rest) = .error (.unmatched template) := by
  rw [scan]
  rintro rest' rfl
  exact h rfl

/-- A character of a literal is read as itself. -/
theorem scan_doubled (c : Char) : scan template parameters (doubled c ++ rest) =
    (scan template parameters rest).map (c :: ·) := by
  by_cases hopen : c = '\x7b'
  · subst hopen
    exact scan.eq_2 ..
  · by_cases hclose : c = '\x7d'
    · subst hclose
      exact scan.eq_3 ..
    · rw [doubled, if_neg (by simp [hopen, hclose])]
      exact scan_cons hopen hclose

theorem scanKey_cons {before : List Char} {c : Char} (h : c ≠ '\x7d') :
    scanKey template parameters before (c :: rest) =
      scanKey template parameters (before ++ [c]) rest := by
  rw [scanKey]
  simpa using h

/-- A key is read up to the brace that closes it. -/
theorem scanKey_append (before : List Char) {key : List Char} (h : '\x7d' ∉ key) :
    scanKey template parameters before (key ++ '\x7d' :: rest) = (do
      let value ← placeholder parameters (before ++ key)
      let name ← scan template parameters rest
      return value ++ name) := by
  induction key generalizing before with
  | nil => rw [List.nil_append, scanKey, List.append_nil]
  | cons c key ih =>
    obtain ⟨hc, hkey⟩ := not_or.1 (mt List.mem_cons.2 h)
    rw [List.cons_append, scanKey_cons (Ne.symm hc), ih _ hkey, List.append_assoc]
    rfl

theorem scanKey_unclosed (before : List Char) {key : List Char} (h : '\x7d' ∉ key) :
    scanKey template parameters before key = .error (.unclosed template) := by
  induction key generalizing before with
  | nil => rw [scanKey]
  | cons c key ih =>
    obtain ⟨hc, hkey⟩ := not_or.1 (mt List.mem_cons.2 h)
    rw [scanKey_cons (Ne.symm hc), ih _ hkey]

theorem scan_placeholder (key : Key) :
    scan template parameters ((Segment.placeholder key).written ++ rest) = (do
      let value ← placeholder parameters key.text
      let name ← scan template parameters rest
      return value ++ name) := by
  have hhead : (key.text ++ '\x7d' :: rest).head? ≠ some '\x7b' := by
    have hkey := key.noOpen
    cases htext : key.text with
    | nil => simp
    | cons c _ => simpa [htext] using hkey
  have hwritten : (Segment.placeholder key).written ++ rest =
      '\x7b' :: (key.text ++ '\x7d' :: rest) := by simp [Segment.written]
  rw [hwritten, scan_open hhead, scanKey_append [] key.noClose, List.nil_append]

/-- **Reading a segment** adds what it stands for. -/
theorem scan_written (h : segment.Fills parameters text) :
    scan template parameters (segment.written ++ rest) =
      (scan template parameters rest).map (text.toList ++ ·) := by
  cases segment with
  | literal =>
    cases h
    rw [Segment.written]
    induction text.toList with
    | nil =>
      simp only [List.flatMap_nil, List.nil_append]
      cases scan template parameters rest <;> rfl
    | cons c cs ih =>
      rw [List.flatMap_cons, List.append_assoc, scan_doubled, ih]
      cases scan template parameters rest <;> rfl
  | placeholder key =>
    rw [scan_placeholder, placeholder_of_fills h]
    cases scan template parameters rest <;> rfl

theorem scan_write (h : List.Forall₂ (Segment.Fills parameters) segments texts) :
    scan template parameters (write segments ++ rest) =
      (scan template parameters rest).map ((String.join texts).toList ++ ·) := by
  rw [String.toList_join]
  induction h with
  | nil =>
    simp only [write, List.flatMap_nil, List.nil_append]
    cases scan template parameters rest <;> rfl
  | cons hfills _ ih =>
    rw [write] at ih ⊢
    rw [List.flatMap_cons, List.append_assoc, scan_written hfills, ih, List.flatMap_cons]
    cases scan template parameters rest with
    | error => rfl
    | ok => simp [Except.map]

theorem scan_fault (h : Fault template parameters cs error) :
    scan template parameters cs = .error error := by
  cases h with
  | missing hlacks =>
    cases hlacks with
    | placeholder hkey hvalue =>
      rw [scan_placeholder, placeholder_of_lacks (.placeholder hkey hvalue)]
      rfl
  | unclosed key => rw [scan_open key.noOpen, scanKey_unclosed [] key.noClose]
  | unmatched hrest => exact scan_unmatched hrest

/-! ## Every text can be read -/

/-- The text begins with segments whose parameters are supplied, and then there is nothing more or a
fault. -/
def Reads (template : String) (parameters : Parameters) (cs : List Char) : Prop :=
  ∃ segments texts rest, cs = write segments ++ rest ∧
    List.Forall₂ (Segment.Fills parameters) segments texts ∧
    (rest = [] ∨ ∃ error, Fault template parameters rest error)

theorem Fault.reads (h : Fault template parameters cs error) : Reads template parameters cs :=
  ⟨[], [], cs, rfl, .nil, .inr ⟨error, h⟩⟩

theorem Reads.cons (hfills : segment.Fills parameters text) (h : Reads template parameters rest) :
    Reads template parameters (segment.written ++ rest) := by
  obtain ⟨segments, texts, rest, rfl, hall, hrest⟩ := h
  exact ⟨segment :: segments, text :: texts, rest,
    by rw [write, write, List.flatMap_cons, List.append_assoc], .cons hfills hall, hrest⟩

theorem Reads.doubled {c : Char} (h : Reads template parameters rest) :
    Reads template parameters (doubled c ++ rest) := by
  have hliteral := h.cons (.literal (String.singleton c))
  simpa [Segment.written] using hliteral

/-- A placeholder is supplied, or it is the fault. -/
theorem reads_placeholder (key : Key) (h : Reads template parameters rest) :
    Reads template parameters ((Segment.placeholder key).written ++ rest) := by
  rcases key.fills_or_lacks parameters with ⟨text, hfills⟩ | ⟨name, hlacks⟩
  · exact h.cons hfills
  · exact (Fault.missing hlacks).reads

/-- After an opening brace there is another one, or a key and perhaps a closing brace. -/
theorem reads_open
    (h : ∀ {later : List Char}, later.length < rest.length → Reads template parameters later) :
    Reads template parameters ('\x7b' :: rest) := by
  by_cases hnext : rest.head? = some '\x7b'
  · obtain ⟨rest, rfl⟩ := List.head?_eq_some_iff.1 hnext
    exact Reads.doubled (c := '\x7b') (h (by simp))
  · by_cases hclosed : '\x7d' ∈ rest
    · obtain ⟨text, later, rfl, hnone⟩ := List.eq_append_cons_of_mem hclosed
      have hhead : text.head? ≠ some '\x7b' := by
        cases text with
        | nil => simp
        | cons c _ => simpa using hnext
      have hlater : Reads template parameters later := h (by simp; omega)
      have hreads := reads_placeholder ⟨text, hnone, hhead⟩ hlater
      simpa [Segment.written] using hreads
    · exact (Fault.unclosed ⟨rest, hclosed, hnext⟩).reads

/-- **Every text can be read** up to its end or to a fault. -/
theorem exists_reading (template : String) (parameters : Parameters) (cs : List Char) :
    Reads template parameters cs := by
  induction hn : cs.length using Nat.strongRecOn generalizing cs with
  | ind n ih =>
    subst hn
    have hshorter {rest : List Char} (hlt : rest.length < cs.length) :
        Reads template parameters rest := ih _ hlt rest rfl
    cases cs with
    | nil => exact ⟨[], [], [], rfl, .nil, .inl rfl⟩
    | cons c rest =>
      by_cases hopen : c = '\x7b'
      · subst hopen
        exact reads_open fun hlt => hshorter (Nat.lt_succ_of_lt hlt)
      · by_cases hclose : c = '\x7d'
        · subst hclose
          by_cases hnext : rest.head? = some '\x7d'
          · obtain ⟨rest, rfl⟩ := List.head?_eq_some_iff.1 hnext
            have hlt : rest.length < ('\x7d' :: '\x7d' :: rest).length :=
              Nat.lt_succ_of_lt (Nat.lt_succ_self _)
            exact Reads.doubled (c := '\x7d') (hshorter hlt)
          · exact (Fault.unmatched hnext).reads
        · have hrest : Reads template parameters rest := hshorter (by simp)
          have hreads := hrest.doubled (c := c)
          rwa [doubled, if_neg (by simp [hopen, hclose])] at hreads

/-! ## Templates -/

/-- The segments have their parameters, or there is a first one that lacks its own. -/
theorem supplied_or_lacks (parameters : Parameters) (segments : List Segment) :
    (∃ texts, List.Forall₂ (Segment.Fills parameters) segments texts) ∨
      ∃ before texts segment after name, segments = before ++ segment :: after ∧
        List.Forall₂ (Segment.Fills parameters) before texts ∧ segment.Lacks parameters name := by
  induction segments with
  | nil => exact .inl ⟨[], .nil⟩
  | cons segment segments ih =>
    rcases segment.fills_or_lacks parameters with ⟨text, hfills⟩ | ⟨name, hlacks⟩
    · rcases ih with ⟨texts, hall⟩ | ⟨before, texts, missing, after, name, rfl, hall, hlacks⟩
      · exact .inl ⟨text :: texts, .cons hfills hall⟩
      · exact .inr ⟨segment :: before, text :: texts, missing, after, name, rfl,
          .cons hfills hall, hlacks⟩
    · exact .inr ⟨[], [], segment, segments, name, rfl, .nil, hlacks⟩

theorem render_of_fills (hall : List.Forall₂ (Segment.Fills parameters) segments texts) :
    render (String.ofList (write segments)) parameters = .ok (String.join texts) := by
  have hread := @scan_write (String.ofList (write segments)) _ _ _ [] hall
  rw [List.append_nil, scan, Except.map] at hread
  rw [render, String.toList_ofList, hread, List.append_nil]
  exact congrArg Except.ok String.ofList_toList

theorem render_of_fault (ht : template.toList = write segments ++ rest)
    (hall : List.Forall₂ (Segment.Fills parameters) segments texts)
    (hfault : Fault template parameters rest error) :
    render template parameters = .error error := by
  rw [render, ht, scan_write hall, scan_fault hfault]
  rfl

/-- A template is written from segments with their parameters, or it has a first fault. -/
theorem written_or_fault (template : String) (parameters : Parameters) :
    (∃ segments texts, template = String.ofList (write segments) ∧
      List.Forall₂ (Segment.Fills parameters) segments texts) ∨
    ∃ segments texts rest error, template.toList = write segments ++ rest ∧
      List.Forall₂ (Segment.Fills parameters) segments texts ∧
      Fault template parameters rest error := by
  obtain ⟨segments, texts, rest, ht, hall, rfl | ⟨error, hfault⟩⟩ :=
    exists_reading template parameters template.toList
  · refine .inl ⟨segments, texts, ?_, hall⟩
    rw [← List.append_nil (write segments), ← ht, String.ofList_toList]
  · exact .inr ⟨segments, texts, rest, error, ht, hall, hfault⟩

/-- **What a template gives.** One that is written from segments gives what they stand for, one
after the other, or reports the first parameter that is missing. A template gives a name only if it
is written from segments whose parameters are all supplied; otherwise its first fault is
reported. -/
theorem render_write (parameters : Parameters) :
    (∀ segments,
      (∃ texts, List.Forall₂ (Segment.Fills parameters) segments texts ∧
        render (String.ofList (write segments)) parameters = .ok (String.join texts)) ∨
      (∃ before texts segment after name, segments = before ++ segment :: after ∧
        List.Forall₂ (Segment.Fills parameters) before texts ∧ segment.Lacks parameters name ∧
        render (String.ofList (write segments)) parameters = .error (.unknownParameter name))) ∧
    ∀ template,
      (∀ name, render template parameters = .ok name ↔
        ∃ segments texts, template = String.ofList (write segments) ∧
          List.Forall₂ (Segment.Fills parameters) segments texts ∧ name = String.join texts) ∧
      (∀ error, render template parameters = .error error ↔
        ∃ segments texts rest, template.toList = write segments ++ rest ∧
          List.Forall₂ (Segment.Fills parameters) segments texts ∧
          Fault template parameters rest error) := by
  refine ⟨fun segments => ?_, fun template => ⟨fun name => ⟨fun h => ?_, ?_⟩,
    fun error => ⟨fun h => ?_, ?_⟩⟩⟩
  · rcases supplied_or_lacks parameters segments with
      ⟨texts, hall⟩ | ⟨before, texts, segment, after, name, rfl, hall, hlacks⟩
    · exact .inl ⟨texts, hall, render_of_fills hall⟩
    · refine .inr ⟨before, texts, segment, after, name, rfl, hall, hlacks, ?_⟩
      have hwritten : (String.ofList (write (before ++ segment :: after))).toList =
          write before ++ (segment.written ++ write after) := by
        simp [write]
      exact render_of_fault hwritten hall (.missing hlacks)
  · rcases written_or_fault template parameters with
      ⟨segments, texts, rfl, hall⟩ | ⟨segments, texts, rest, error, ht, hall, hfault⟩
    · rw [render_of_fills hall] at h
      cases h
      exact ⟨segments, texts, rfl, hall, rfl⟩
    · rw [render_of_fault ht hall hfault] at h
      cases h
  · rintro ⟨segments, texts, rfl, hall, rfl⟩
    exact render_of_fills hall
  · rcases written_or_fault template parameters with
      ⟨segments, texts, rfl, hall⟩ | ⟨segments, texts, rest, error', ht, hall, hfault⟩
    · rw [render_of_fills hall] at h
      cases h
    · rw [render_of_fault ht hall hfault] at h
      cases h
      exact ⟨segments, texts, rest, ht, hall, hfault⟩
  · rintro ⟨segments, texts, rest, ht, hall, hfault⟩
    exact render_of_fault ht hall hfault

end RunEngine.RunName
