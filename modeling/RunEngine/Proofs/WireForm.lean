import Mathlib.Algebra.GroupWithZero.Nat
import Mathlib.Data.List.Basic
import RunEngine.Proofs.Presentation
import RunEngine.Wire.Decoding
import RunEngine.Wire.Encoding

/-!
# Records read back from their JSON form

States, runs and answers are exchanged as JSON, and the members of an object may arrive in another
order than they were written in. Nothing is lost on the way: what is absent is written as `null` and
read as absent, empty lists and maps are written as such, and the data of a state has a tag beside
it, so that a result that is `null` is not taken for no result.

Identifiers are read back from their text by `Uuid.read_toText`; of a time this is taken for granted
(`Timestamp.ReadsBack`). Values inside a record have to list the members of their objects as maps
do, and a delay has to be a number. `Writable` says so of each kind of record that contains any of
these, and **`records_lossless`** says that every record that is writable is read back from every
presentation of its form, so that no two have a form in common.
-/

namespace RunEngine

open Source

/-! ## Identifiers -/

namespace Text

theorem digit?_digitChar : ∀ d < 16, digit? 16 (Nat.digitChar d) = some d := by decide

theorem numberFrom_append {base : Nat} (xs ys : List Char) (n : Nat) :
    numberFrom base n (xs ++ ys) = (numberFrom base n xs).bind (numberFrom base · ys) := by
  induction xs generalizing n with
  | nil => rfl
  | cons c rest ih =>
    simp only [List.cons_append, numberFrom]
    cases digit? base c with
    | none => rfl
    | some d => exact ih _

end Text

namespace Uuid

@[simp] theorem length_hex (width n : Nat) : (hex width n).length = width := by
  induction width generalizing n with
  | zero => rfl
  | succ width ih => simp [hex, ih]

theorem numberFrom_hex (width n m : Nat) :
    Text.numberFrom 16 m (hex width n) = some (m * 16 ^ width + n % 16 ^ width) := by
  induction width generalizing n with
  | zero => simp [hex, Text.numberFrom, Nat.mod_one]
  | succ width ih =>
    have hdigit := Text.digit?_digitChar (n % 16) (Nat.mod_lt n (by decide))
    have hmod : n % 16 ^ (width + 1) = n % 16 + 16 * (n / 16 % 16 ^ width) := by
      rw [Nat.pow_succ, Nat.mul_comm, Nat.mod_mul]
    simp only [hex, Text.numberFrom_append, ih, Option.bind_some, Text.numberFrom, hdigit, hmod]
    rw [Nat.pow_succ, ← Nat.mul_assoc]
    congr 1
    omega

theorem length_hyphenated (digits : List Char) {groups : List Nat}
    (h : groups.sum ≤ digits.length) :
    (hyphenated digits groups).length = digits.length + groups.length := by
  induction groups generalizing digits with
  | nil => rfl
  | cons group rest ih =>
    rw [List.sum_cons] at h
    have hrest := ih (digits.drop group) (by simp; omega)
    simp only [hyphenated, List.length_append, List.length_take, List.length_cons, hrest,
      List.length_drop]
    omega

/-- The hyphens are taken out where they were put in. -/
theorem ungroup?_hyphenated (digits : List Char) {groups : List Nat}
    (h : groups.sum ≤ digits.length) :
    ungroup? (hyphenated digits groups) groups = some digits := by
  induction groups generalizing digits with
  | nil => rfl
  | cons group rest ih =>
    rw [List.sum_cons] at h
    have hlength : (digits.take group).length = group := by simp; omega
    have hrest := ih (digits.drop group) (by simp; omega)
    simp only [hyphenated, ungroup?, List.drop_left' hlength, List.take_left' hlength, hrest,
      Option.map_some, List.take_append_drop]

/-- An identifier is read back from its text. -/
theorem read_toText (u : Uuid) : read u.toText = some u := by
  have hsum : groups.sum ≤ (hex 32 u.value.toNat).length := by rw [length_hex]; decide
  have hlength : (hyphenated (hex 32 u.value.toNat) groups).length = 36 := by
    rw [length_hyphenated _ hsum, length_hex]; decide
  have hdigits : ofDigits? (hex 32 u.value.toNat) = some u := by
    have hne : (hex 32 u.value.toNat).isEmpty = false := by simp [hex]
    have hlt : u.value.toNat < 16 ^ 32 := u.value.isLt
    rw [ofDigits?, length_hex, if_pos rfl, Text.natural?, hne, if_neg Bool.false_ne_true,
      numberFrom_hex, Nat.zero_mul, Nat.zero_add, Nat.mod_eq_of_lt hlt]
    simp
  simp only [read, toText, String.toList_ofList, hlength, ofHyphenated?, if_true,
    ungroup?_hyphenated _ hsum, Option.bind_some, hdigits]

end Uuid

/-! ## Pieces of records -/

variable {levels : Nat} {s : Source}

namespace Source

theorem uint32?_of_presented {n : UInt32} (h : (Json.word n).PresentedBy s) :
    s.uint32? = some n := by
  have hn : (n.toNat : Int) < 0x100000000 := Int.ofNat_lt.2 n.toNat_lt
  rw [Json.presentedBy_number.1 h, uint32?, if_pos ⟨Int.natCast_nonneg _, hn⟩]
  simp only [Int.toNat_natCast, UInt32.ofNat_toNat]

theorem float?_of_presented {x : Binary64} (hx : x.isFinite)
    (h : (Json.ofFloat x).PresentedBy s) : s.float? = some x := by
  rw [Json.ofFloat, if_pos hx, Json.presentedBy_number] at h
  rw [h, float?]

theorem optionString?_of_presented {text : Option String}
    (h : (Json.ofOption .string text).PresentedBy s) : option? string? s = some text :=
  option?_of_presented h (fun _ _ => Json.noConfusion) fun _ _ => string?_of_presented

end Source

theorem Uuid.decode_of_presented {u : Uuid} (h : u.toJson.PresentedBy s) : decode s = some u := by
  rw [decode, string?_of_presented h, Option.bind_some, read_toText]

namespace Timestamp

/-- The text of the time names the time. -/
def ReadsBack (t : Timestamp) : Prop := read t.toText = some t

instance (t : Timestamp) : Decidable t.ReadsBack := inferInstanceAs (Decidable (_ = _))

theorem decode_of_presented {t : Timestamp} (ht : t.ReadsBack) (h : t.toJson.PresentedBy s) :
    decode s = some t := by
  rw [decode, string?_of_presented h, Option.bind_some, ht]

end Timestamp

theorem Uuid.option?_of_presented {u : Option Uuid}
    (h : (Json.ofOption Uuid.toJson u).PresentedBy s) : option? decode s = some u :=
  Source.option?_of_presented h (fun _ _ => Json.noConfusion) fun _ _ => decode_of_presented

theorem decodeStrings_of_presented {texts : List String}
    (h : (Json.ofStrings texts).PresentedBy s) (hdepth : (Json.ofStrings texts).depth ≤ levels) :
    decodeStrings levels s = some texts :=
  list?_of_presented h hdepth fun _ _ _ _ h _ => string?_of_presented h

theorem decodeInputs_of_presented {inputs : Dict (List Uuid)}
    (h : (inputsToJson inputs).PresentedBy s) (hdepth : (inputsToJson inputs).depth ≤ levels) :
    decodeInputs levels s = some inputs :=
  dict?_of_presented h hdepth fun _ _ _ _ h hdepth =>
    list?_of_presented h hdepth fun _ _ _ _ h _ => Uuid.decode_of_presented h

/-- Every value of the map lists the members of its objects as maps do. -/
def ParametersOrdered (p : Parameters) : Prop := ∀ e ∈ p.entries, e.2.Ordered

theorem decodeParameters_of_presented {p : Parameters} (hp : ParametersOrdered p)
    (h : (Json.ofDict p).PresentedBy s) (hdepth : (Json.ofDict p).depth ≤ levels) :
    decodeParameters levels s = some p := by
  have hid : p.map id = p := Dict.ext_entries (by simp [Dict.map])
  rw [← hid] at h hdepth
  exact dict?_of_presented h hdepth fun e he _ _ h hdepth => value?_of_presented h (hp e he) hdepth

/-! ## States -/

theorem StateType.decode_of_presented {t : StateType} (h : t.toJson.PresentedBy s) :
    decode levels s = some t := by
  obtain rfl := Json.presentedBy_string.1 h
  exact t.ofText?_text

theorem ErrorPayload.decode_of_presented {p : ErrorPayload} (h : p.toJson.PresentedBy s)
    (hdepth : p.toJson.depth ≤ levels) : decode levels s = some p := by
  obtain ⟨levels, rfl, hle⟩ := exists_eq_succ_of_le hdepth
  -- The fields are found, and of each is known which value its source presents.
  obtain ⟨_, hfields, _, _, rfl, hkind, _, _, rfl, hmessage, _, _, rfl, hcauses, rfl⟩ :=
    fields?_of_presented levels h (by simp) (List.Subset.refl _)
  simp only [Json.membersDepth, Nat.max_le] at hle
  obtain ⟨-, -, hlecauses, -⟩ := hle
  simp only [List.map_cons, List.map_nil] at hfields
  simp [decode, hfields, required, defaulted, string?_of_presented hkind,
    string?_of_presented hmessage, decodeStrings_of_presented hcauses hlecauses]

namespace StateData

/-- The objects in the value of a result list their members as maps do. -/
def Writable : StateData → Prop
  | result value => value.Ordered
  | error _ => True

theorem toJson_ne_null (d : StateData) : d.toJson ≠ .null := by cases d <;> simp [toJson]

/-- The data is read as the tag says, whichever of the two comes first. -/
theorem exists_decode_eq_decodeTagged {tag : String} {value : Json}
    (h : (Json.object [("kind", .string tag), ("value", value)]).PresentedBy s)
    (hdepth : (Json.object [("kind", .string tag), ("value", value)]).depth ≤ levels) :
    ∃ t, value.PresentedBy t ∧ value.depth ≤ levels - 1 ∧
      decode levels s = decodeTagged (levels - 1) tag t := by
  obtain ⟨levels, rfl, hle⟩ := exists_eq_succ_of_le hdepth
  simp only [Json.membersDepth, Nat.max_le] at hle
  obtain ⟨-, hlevalue, -⟩ := hle
  obtain ⟨found, rfl, hfound⟩ := h
  obtain ⟨k, hkind, hk⟩ := unique?_of_presented hfound (by simp) (List.mem_cons_self ..)
  obtain ⟨t, hvalue, ht⟩ :=
    unique?_of_presented hfound (by simp) (List.mem_cons_of_mem _ (List.mem_cons_self ..))
  obtain rfl := Json.presentedBy_string.1 hk
  -- Data that comes before its tag is asked for a value first. Any presentation has one.
  obtain ⟨w, hw⟩ := exists_value?_of_presented ht hlevalue
  exact ⟨t, ht, hlevalue, by
    simp [decode, any_isNone_of_presented hfound, hkind, hvalue, required, variant?, hw]⟩

theorem decode_of_presented {d : StateData} (hd : d.Writable) (h : d.toJson.PresentedBy s)
    (hdepth : d.toJson.depth ≤ levels) : decode levels s = some d := by
  cases d with
  | result value =>
    obtain ⟨t, ht, hle, heq⟩ := exists_decode_eq_decodeTagged h hdepth
    simp [heq, decodeTagged, value?_of_presented ht hd hle]
  | error payload =>
    obtain ⟨t, ht, hle, heq⟩ := exists_decode_eq_decodeTagged h hdepth
    simp [heq, decodeTagged, ErrorPayload.decode_of_presented ht hle]

end StateData

namespace State

def Writable (x : State) : Prop := (∀ d, x.data = some d → d.Writable) ∧ x.timestamp.ReadsBack

theorem decode_of_presented {x : State} (hx : x.Writable) (h : x.toJson.PresentedBy s)
    (hdepth : x.toJson.depth ≤ levels) : decode levels s = some x := by
  obtain ⟨levels, rfl, hle⟩ := exists_eq_succ_of_le hdepth
  obtain ⟨_, hfields, _, _, rfl, htype, _, _, rfl, hname, _, _, rfl, hmessage, _, _, rfl, hdata,
    _, _, rfl, htime, rfl⟩ := fields?_of_presented levels h (by simp) (List.Subset.refl _)
  simp only [Json.membersDepth, Nat.max_le] at hle
  obtain ⟨-, -, -, hledata, -⟩ := hle
  have hdata := option?_of_presented hdata (fun d _ => d.toJson_ne_null) fun d hd h =>
    StateData.decode_of_presented (hx.1 d hd) h (by simpa [hd, Json.ofOption] using hledata)
  simp only [List.map_cons, List.map_nil] at hfields
  simp [decode, hfields, required, defaulted, StateType.decode_of_presented htype,
    string?_of_presented hname, optionString?_of_presented hmessage, hdata,
    Timestamp.decode_of_presented hx.2 htime]

end State

/-! ## Runs -/

namespace FlowRun

def Writable (r : FlowRun) : Prop :=
  ParametersOrdered r.parameters ∧ r.state.Writable ∧ r.created.ReadsBack

theorem decode_of_presented {r : FlowRun} (hr : r.Writable) (h : r.toJson.PresentedBy s)
    (hdepth : r.toJson.depth ≤ levels) : decode levels s = some r := by
  obtain ⟨levels, rfl, hle⟩ := exists_eq_succ_of_le hdepth
  obtain ⟨_, hfields, _, _, rfl, hid, _, _, rfl, hname, _, _, rfl, hflow, _, _, rfl, hversion,
    _, _, rfl, hparameters, _, _, rfl, hstate, _, _, rfl, hparent, _, _, rfl, htags,
    _, _, rfl, hcount, _, _, rfl, hcreated, rfl⟩ :=
    fields?_of_presented levels h (by simp) (List.Subset.refl _)
  simp only [Json.membersDepth, Nat.max_le] at hle
  obtain ⟨-, -, -, -, hleparameters, hlestate, -, hletags, -⟩ := hle
  simp only [List.map_cons, List.map_nil] at hfields
  simp [decode, hfields, required, defaulted, Uuid.decode_of_presented hid,
    optionString?_of_presented hname, string?_of_presented hflow,
    optionString?_of_presented hversion,
    decodeParameters_of_presented hr.1 hparameters hleparameters,
    State.decode_of_presented hr.2.1 hstate hlestate, Uuid.option?_of_presented hparent,
    decodeStrings_of_presented htags hletags, uint32?_of_presented hcount,
    Timestamp.decode_of_presented hr.2.2 hcreated]

end FlowRun

theorem RetryPolicy.decode_of_presented {p : RetryPolicy} (h : p.toJson.PresentedBy s)
    (hdepth : p.toJson.depth ≤ levels) : decode levels s = some p := by
  obtain ⟨levels, rfl, -⟩ := exists_eq_succ_of_le hdepth
  obtain ⟨_, hfields, _, _, rfl, hretries, rfl⟩ :=
    fields?_of_presented levels h (by simp) (List.Subset.refl _)
  simp only [List.map_cons, List.map_nil] at hfields
  simp [decode, hfields, required, uint32?_of_presented hretries]

namespace FlowRunRequest

def Writable (r : FlowRunRequest) : Prop := ParametersOrdered r.parameters ∧ r.state.Writable

theorem decode_of_presented {r : FlowRunRequest} (hr : r.Writable) (h : r.toJson.PresentedBy s)
    (hdepth : r.toJson.depth ≤ levels) : decode levels s = some r := by
  obtain ⟨levels, rfl, hle⟩ := exists_eq_succ_of_le hdepth
  obtain ⟨_, hfields, _, _, rfl, hflow, _, _, rfl, hversion, _, _, rfl, hname,
    _, _, rfl, hparameters, _, _, rfl, hstate, _, _, rfl, hparent, _, _, rfl, htags,
    _, _, rfl, hpolicy, rfl⟩ := fields?_of_presented levels h (by simp) (List.Subset.refl _)
  simp only [Json.membersDepth, Nat.max_le] at hle
  obtain ⟨-, -, -, hleparameters, hlestate, -, hletags, hlepolicy, -⟩ := hle
  simp only [List.map_cons, List.map_nil] at hfields
  simp [decode, hfields, required, defaulted, string?_of_presented hflow,
    optionString?_of_presented hversion, optionString?_of_presented hname,
    decodeParameters_of_presented hr.1 hparameters hleparameters,
    State.decode_of_presented hr.2 hstate hlestate, Uuid.option?_of_presented hparent,
    decodeStrings_of_presented htags hletags, RetryPolicy.decode_of_presented hpolicy hlepolicy]

end FlowRunRequest

namespace TaskRunRequest

theorem ofFields_of_presented {r : TaskRunRequest} {sources : List Source}
    (hr : r.state.Writable) (h : Json.ItemsPresentedBy (r.fields.map (·.2)) sources)
    (hdepth : Json.membersDepth r.fields ≤ levels) :
    ofFields levels (sources.map some) = some r := by
  obtain ⟨_, _, rfl, hflow, _, _, rfl, hname, _, _, rfl, htask, _, _, rfl, hkey,
    _, _, rfl, hinputs, _, _, rfl, hstate, rfl⟩ := h
  simp only [fields, Json.membersDepth, Nat.max_le] at hdepth
  obtain ⟨-, -, -, -, hleinputs, hlestate, -⟩ := hdepth
  simp [ofFields, required, defaulted, Uuid.decode_of_presented hflow,
    string?_of_presented hname, string?_of_presented htask, string?_of_presented hkey,
    decodeInputs_of_presented hinputs hleinputs, State.decode_of_presented hr hstate hlestate]

theorem decode_of_presented {r : TaskRunRequest} (hr : r.state.Writable)
    (h : r.toJson.PresentedBy s) (hdepth : r.toJson.depth ≤ levels) :
    decode levels s = some r := by
  obtain ⟨levels, rfl, hle⟩ := exists_eq_succ_of_le hdepth
  obtain ⟨sources, hfields, hsources⟩ :=
    fields?_of_presented levels h (by simp [fields]) (List.Subset.refl _)
  have hnames : r.fields.map (·.1) = names := rfl
  simp [decode, ← hnames, hfields, ofFields_of_presented hr hsources hle]

end TaskRunRequest

theorem TaskRun.decode_of_presented {r : TaskRun} (hr : r.task.state.Writable)
    (h : r.toJson.PresentedBy s) (hdepth : r.toJson.depth ≤ levels) :
    decode levels s = some r := by
  obtain ⟨levels, rfl, hle⟩ := exists_eq_succ_of_le hdepth
  obtain ⟨_, hfields, _, sources, rfl, hid, hsources⟩ :=
    fields?_of_presented levels h (by simp [TaskRunRequest.fields]) (List.Subset.refl _)
  -- Behind the identifier the fields are those of the request.
  have hnames : r.task.fields.map (·.1) = TaskRunRequest.names := rfl
  have htask := TaskRunRequest.ofFields_of_presented hr hsources (Nat.max_le.1 hle).2
  simp only [List.map_cons, hnames] at hfields
  simp [decode, hfields, required, Uuid.decode_of_presented hid, htask]

/-! ## Answers -/

namespace Answer

/-- The state of the answer can be written, and a delay is a number. -/
def Writable : Answer → Prop
  | accept state | reject state _ => state.Writable
  | wait delay _ => delay.isFinite
  | abort _ => True

/-- The fields that go with a status are found beside it. -/
theorem exists_decode_eq_ofFields {status : String} {fields : List (String × Json)}
    (h : (Json.object (("status", .string status) :: fields)).PresentedBy s)
    (hdepth : (Json.object (("status", .string status) :: fields)).depth ≤ levels)
    (hnodup : ("status" :: fields.map (·.1)).Nodup)
    (hnames : names? status = some (fields.map (·.1))) :
    ∃ sources, Json.ItemsPresentedBy (fields.map (·.2)) sources ∧
      Json.membersDepth fields ≤ levels - 1 ∧
      decode levels s = ofFields (levels - 1) status (sources.map some) := by
  obtain ⟨w, hw⟩ := exists_value?_of_presented h hdepth
  obtain ⟨levels, rfl, hle⟩ := exists_eq_succ_of_le hdepth
  obtain ⟨sources, hfields, hsources⟩ :=
    fields?_of_presented levels h hnodup (List.subset_cons_self ..)
  obtain ⟨found, rfl, hfound⟩ := h
  obtain ⟨k, hstatus, hk⟩ := unique?_of_presented hfound hnodup (List.mem_cons_self ..)
  obtain rfl := Json.presentedBy_string.1 hk
  refine ⟨sources, hsources, (Nat.max_le.1 hle).2, ?_⟩
  simp [decode, hw, hstatus, required, string?, hnames, hfields]

theorem decode_of_presented {a : Answer} (ha : a.Writable) (h : a.toJson.PresentedBy s)
    (hdepth : a.toJson.depth ≤ levels) : decode levels s = some a := by
  cases a with
  | accept state =>
    obtain ⟨_, ⟨_, _, rfl, hstate, rfl⟩, hle, heq⟩ :=
      exists_decode_eq_ofFields h hdepth (by simp) rfl
    have hstate := State.decode_of_presented ha hstate (Nat.max_le.1 hle).1
    simp [heq, ofFields, required, hstate]
  | reject state reason =>
    obtain ⟨_, ⟨_, _, rfl, hstate, _, _, rfl, hreason, rfl⟩, hle, heq⟩ :=
      exists_decode_eq_ofFields h hdepth (by simp) rfl
    have hstate := State.decode_of_presented ha hstate (Nat.max_le.1 hle).1
    simp [heq, ofFields, required, hstate, string?_of_presented hreason]
  | wait delay reason =>
    obtain ⟨_, ⟨_, _, rfl, hdelay, _, _, rfl, hreason, rfl⟩, -, heq⟩ :=
      exists_decode_eq_ofFields h hdepth (by simp) rfl
    simp [heq, ofFields, required, float?_of_presented ha hdelay, string?_of_presented hreason]
  | abort reason =>
    obtain ⟨_, ⟨_, _, rfl, hreason, rfl⟩, -, heq⟩ :=
      exists_decode_eq_ofFields h hdepth (by simp) rfl
    simp [heq, ofFields, required, string?_of_presented hreason]

end Answer

/-! ## All records -/

/-- Of what can be written nothing is lost: it is read back from every presentation of its JSON
form, within as many levels as the form is deep, and no two share a presentation. -/
structure Lossless {α : Type} (toJson : α → Json) (decode : Decoder α) (Writable : α → Prop) :
    Prop where
  decode_of_presented : ∀ {x levels s}, Writable x → (toJson x).PresentedBy s →
    (toJson x).depth ≤ levels → decode levels s = some x
  eq_of_presented : ∀ {x y s}, Writable x → Writable y → (toJson x).PresentedBy s →
    (toJson y).PresentedBy s → x = y

/-- What is read back is not shared. -/
theorem Lossless.of_decode {α : Type} {toJson : α → Json} {decode : Decoder α}
    {Writable : α → Prop}
    (h : ∀ {x levels s}, Writable x → (toJson x).PresentedBy s → (toJson x).depth ≤ levels →
      decode levels s = some x) : Lossless toJson decode Writable where
  decode_of_presented := h
  eq_of_presented {x y s} hx hy hxs hys := by
    have hlevels := Nat.le_max_left (toJson x).depth (toJson y).depth
    have hlevels' := Nat.le_max_right (toJson x).depth (toJson y).depth
    exact Option.some.inj ((h hx hxs hlevels).symm.trans (h hy hys hlevels'))

/-- Every record that is exchanged is read back as it was, and no two have the same form. -/
theorem records_lossless :
    Lossless StateType.toJson StateType.decode (fun _ => True) ∧
      Lossless ErrorPayload.toJson ErrorPayload.decode (fun _ => True) ∧
      Lossless StateData.toJson StateData.decode StateData.Writable ∧
      Lossless State.toJson State.decode State.Writable ∧
      Lossless FlowRun.toJson FlowRun.decode FlowRun.Writable ∧
      Lossless FlowRunRequest.toJson FlowRunRequest.decode FlowRunRequest.Writable ∧
      Lossless TaskRun.toJson TaskRun.decode (·.task.state.Writable) ∧
      Lossless TaskRunRequest.toJson TaskRunRequest.decode (·.state.Writable) ∧
      Lossless RetryPolicy.toJson RetryPolicy.decode (fun _ => True) ∧
      Lossless Answer.toJson Answer.decode Answer.Writable :=
  ⟨.of_decode fun _ h _ => StateType.decode_of_presented h,
    .of_decode fun _ => ErrorPayload.decode_of_presented,
    .of_decode StateData.decode_of_presented,
    .of_decode State.decode_of_presented,
    .of_decode FlowRun.decode_of_presented,
    .of_decode FlowRunRequest.decode_of_presented,
    .of_decode TaskRun.decode_of_presented,
    .of_decode TaskRunRequest.decode_of_presented,
    .of_decode fun _ => RetryPolicy.decode_of_presented,
    .of_decode Answer.decode_of_presented⟩

/-- A run that has nothing that can be left out, the data of its state apart. -/
def bareRun (data : Option StateData) : FlowRun where
  id := .ofRun 7
  name := none
  flowName := "etl"
  flowVersion := none
  parameters := ∅
  state := { State.completed ⟨1767225600, 250000000⟩ with data }
  parentTaskRun := none
  tags := []
  runCount := 1
  created := ⟨1767225599, 0⟩

/-- A run whose result is `null` is read back, and its form is not that of one without a result. -/
theorem records_lossless_bareRun :
    (bareRun (some (.result .null))).Writable ∧ (bareRun none).Writable ∧
      FlowRun.decode Source.maxDepth (.ofJson (bareRun (some (.result .null))).toJson) =
        some (bareRun (some (.result .null))) ∧
      ¬ ∃ s, (bareRun (some (.result .null))).toJson.PresentedBy s ∧
        (bareRun none).toJson.PresentedBy s := by
  obtain ⟨-, -, -, -, hruns, -⟩ := records_lossless
  have hended : Timestamp.ReadsBack ⟨1767225600, 250000000⟩ := by decide +kernel
  have hcreated : Timestamp.ReadsBack ⟨1767225599, 0⟩ := by decide +kernel
  have hparameters : ParametersOrdered ∅ := fun _ he => absurd he List.not_mem_nil
  have hnull : (bareRun (some (.result .null))).Writable :=
    ⟨hparameters, ⟨fun _ hd => Option.some.inj hd ▸ trivial, hended⟩, hcreated⟩
  have hnone : (bareRun none).Writable :=
    ⟨hparameters, ⟨fun _ hd => (nomatch hd), hended⟩, hcreated⟩
  have hdecode := hruns.decode_of_presented hnull (Json.presentedBy_ofJson _)
    (show _ ≤ Source.maxDepth by decide)
  refine ⟨hnull, hnone, hdecode, ?_⟩
  rintro ⟨s, hs, hs'⟩
  exact absurd (hruns.eq_of_presented hnull hnone hs hs') (by decide)

end RunEngine
