import RunEngine.Proofs.Journal

/-!
# An engine at work

A caller that has an engine may have it do anything, in any order and any number of times: start it
when it is started, propose before that, finish it twice. `Session e own e'` says that `e'` is what
such a use may make of `e`, and that `own` is what the engine did in the meantime. Between two
operations the world may change in any way, so a session is one with any client.

The calls alone tell how an engine stands. `Contact` is what they tell: whether the client is open,
and the record. It is a machine that moves with every call, and only some calls are moves of it. A
record is created only while the client is open and there is none, and states are proposed only for
the record. **An engine makes no other calls** (`Session.contact`), whatever it is made to do and
whatever it is answered. What holds of a session is then a fact about lists of moves.
-/

namespace RunEngine

/-! ## Commands -/

/-- What a caller may have an engine do. -/
inductive Command where
  | start
  | beginRun
  | setState (s : State)
  | handleSuccess (value : Json)
  | handleException (failure : Failure) (message : Option String) (capture : Option ErrorCapture)
  | finish

/-- What an engine answers. -/
def Command.Reply : Command → Type
  | start | finish => Unit
  | beginRun | setState _ | handleException .. => State
  | handleSuccess _ => Json

/-- Whether a command is one to propose a state. -/
def Command.proposes : Command → Bool
  | start | finish => false
  | beginRun | setState _ | handleSuccess _ | handleException .. => true

namespace Engine

variable {e e' : Engine} {w w' : World} {limit : Nat} {c : Command}

def obey (limit : Nat) (e : Engine) (w : World) : (c : Command) → Option (Step c.Reply)
  | .start => e.start limit w
  | .beginRun => e.beginRun limit w
  | .setState s => e.setState limit w s
  | .handleSuccess value => e.handleSuccess limit w value
  | .handleException failure message capture => e.handleException limit w failure message capture
  | .finish => some (.ok (), (e.finish w).1, (e.finish w).2)

/-- An engine as it is made: nothing was done with it. It may have been given a record. -/
structure IsNew (e : Engine) : Prop where
  active : e.standing = .active
  connected : e.connected = false
  scope : e.scope = none

/-- A command to propose comes to the proposal of one state. -/
theorem exists_setState_of_obey {r : Except EngineError c.Reply} (hc : c.proposes)
    (h : e.obey limit w c = some (r, e', w')) :
    ∃ s outcome, e.setState limit w s = some (outcome, e', w') ∧
      ∀ error, r = .error error ↔ outcome = .error error := by
  cases c with
  | start | finish => cases hc
  | beginRun | setState | handleException => exact ⟨_, r, h, fun _ => Iff.rfl⟩
  | handleSuccess value =>
    simp only [obey, handleSuccess] at h
    split at h <;> cases h <;> rename_i heq
    · exact ⟨_, _, heq, fun _ => by simp⟩
    · exact ⟨_, _, heq, fun _ => ⟨fun h => by cases h; rfl, fun h => by cases h; rfl⟩⟩

end Engine

/-- `e'` is what the engine `e` may have become, and `own` is what it did in the meantime. Every
operation may find another world. -/
inductive Session : Engine → List Event → Engine → Prop
  | nil {e : Engine} : Session e [] e
  | step {e e' e'' : Engine} {own : List Event} {limit : Nat} {w w' : World} {c : Command}
      {r : Except EngineError c.Reply} : Session e own e' →
      e'.obey limit w c = some (r, e'', w') → Session e (own ++ w.conduct w') e''

theorem Session.trans {e e' e'' : Engine} {own own' : List Event} (h : Session e own e')
    (h' : Session e' own' e'') : Session e (own ++ own') e'' := by
  induction h' with
  | nil =>
    rw [List.append_nil]
    exact h
  | step _ hobey ih =>
    rw [← List.append_assoc]
    exact ih.step hobey

/-! ## What the calls tell -/

/-- What is known of an engine from its calls: whether its client is open, and its record. -/
structure Contact where
  isOpen : Bool
  record : Option FlowRun

def Engine.contact (e : Engine) : Contact := ⟨e.connected, e.record⟩

namespace Contact

variable {c c' c'' : Contact} {own own' : List Event} {event : Event}

/-- The moves: which event may come next, and what is known after it. -/
inductive Step : Contact → Event → Contact → Prop
  | connect {record : Option FlowRun} {answer : Except ClientError Unit} :
      Step ⟨false, record⟩ (.connect answer) ⟨(Event.connect answer).opens, record⟩
  | createTaskRun {request : TaskRunRequest} {answer : Except ClientError TaskRun} :
      Step ⟨true, none⟩ (.createTaskRun request answer) ⟨true, none⟩
  | createFlowRun {request : FlowRunRequest} {answer : Except ClientError FlowRun} :
      Step ⟨true, none⟩ (.createFlowRun request answer) ⟨true, answer.toOption⟩
  | propose {run : FlowRun} {s : State} {answer : Except ClientError Answer} :
      Step ⟨true, some run⟩ (.propose run.id s answer)
        ⟨true, some { run with
          state := (Event.propose run.id s answer).recorded?.getD run.state }⟩
  | close {record : Option FlowRun} : Step ⟨true, record⟩ .close ⟨false, record⟩
  | aside {c : Contact} {event : Event} : event.isCall = false → Step c event c

/-- A sequence of moves. -/
inductive Steps : Contact → List Event → Contact → Prop
  | nil {c : Contact} : Steps c [] c
  | cons {c c' c'' : Contact} {event : Event} {own : List Event} :
      c.Step event c' → Steps c' own c'' → Steps c (event :: own) c''

theorem Step.steps (h : c.Step event c') : c.Steps [event] c' := .cons h .nil

theorem Steps.append (h : c.Steps own c') (h' : c'.Steps own' c'') : c.Steps (own ++ own') c'' := by
  induction h with
  | nil => exact h'
  | cons hstep _ ih => exact .cons hstep (ih h')

theorem Steps.exists_split (h : c.Steps (own ++ own') c'') :
    ∃ c', c.Steps own c' ∧ c'.Steps own' c'' := by
  induction own generalizing c with
  | nil => exact ⟨c, .nil, h⟩
  | cons event own ih =>
    obtain ⟨⟩ | ⟨hstep, hrest⟩ := h
    obtain ⟨c', hown, hrest⟩ := ih hrest
    exact ⟨c', .cons hstep hown, hrest⟩

theorem steps_of_aside (h : ∀ e ∈ own, e.isCall = false) : c.Steps own c := by
  induction own with
  | nil => exact .nil
  | cons event own ih =>
    rw [List.forall_mem_cons] at h
    exact .cons (.aside h.1) (ih h.2)

/-! ## Facts about moves -/

theorem Step.isOpen (h : c.Step event c') :
    event.opens.toNat + c.isOpen.toNat = event.closes.toNat + c'.isOpen.toNat := by
  cases h with
  | aside ha =>
    obtain ⟨hopens, hcloses, -⟩ := Event.of_isCall_eq_false ha
    rw [hopens, hcloses]
  | @connect _ answer => cases answer <;> rfl
  | _ => rfl

/-- A record is created by one move and changed by one other. -/
theorem Step.record (h : c.Step event c') :
    c'.record = (c.record.or event.created?).map fun run =>
      { run with state := event.recorded?.getD run.state } := by
  cases h with
  | aside ha =>
    obtain ⟨-, -, hcreated, hrecorded⟩ := Event.of_isCall_eq_false ha
    simp [hcreated, hrecorded]
  | @createFlowRun request answer => cases answer <;> rfl
  | _ => simp [Event.created?, Event.recorded?]

theorem Step.ne_createFlowRun (h : c.Step event c') (hr : c.record.isSome)
    (request : FlowRunRequest) (answer : Except ClientError FlowRun) :
    event ≠ .createFlowRun request answer := by
  rintro rfl
  cases h with
  | createFlowRun => cases hr
  | aside ha => cases ha

theorem Step.created? (h : c.Step event c') (hr : c.record.isSome) : event.created? = none := by
  have hne := h.ne_createFlowRun hr
  cases event with
  | createFlowRun request answer => exact absurd rfl (hne request answer)
  | _ => rfl

theorem Step.recorded? (h : c.Step event c') (hr : c.record = none) : event.recorded? = none := by
  cases h with
  | aside ha => exact (Event.of_isCall_eq_false ha).2.2.2
  | propose => cases hr
  | _ => rfl

/-- A client that is open was connected once more than it was closed. -/
theorem Steps.countP_opens (h : c.Steps own c') :
    own.countP Event.opens + c.isOpen.toNat = own.countP Event.closes + c'.isOpen.toNat := by
  induction h with
  | nil => rfl
  | @cons _ _ _ event _ hstep _ ih =>
    have hopen := hstep.isOpen
    rw [List.countP_cons, List.countP_cons]
    generalize event.opens = opens at hopen ⊢
    generalize event.closes = closes at hopen ⊢
    cases opens <;> cases closes <;>
      simp only [Bool.toNat_true, Bool.toNat_false, Bool.false_eq_true, if_true, if_false]
        at hopen ⊢ <;>
      omega

/-- Once there is a record, none is asked for. -/
theorem Steps.not_mem_createFlowRun (h : c.Steps own c') (hr : c.record.isSome)
    (request : FlowRunRequest) (answer : Except ClientError FlowRun) :
    .createFlowRun request answer ∉ own := by
  induction h with
  | nil => exact List.not_mem_nil
  | cons hstep _ ih =>
    have hr' := hstep.record
    rw [List.mem_cons, not_or]
    refine ⟨(hstep.ne_createFlowRun hr request answer).symm, ih ?_⟩
    simp [hr', hr]

/-- A record is created at most once. -/
theorem Steps.length_created?_le (h : c.Steps own c') :
    c.record.toList.length + (own.filterMap Event.created?).length ≤ 1 := by
  induction h with
  | @nil c => cases c.record <;> simp
  | @cons c _ _ event _ hstep _ ih =>
    have hcreated := hstep.created?
    rw [hstep.record] at ih
    rw [List.filterMap_cons]
    cases hr : c.record <;> cases hc : event.created? <;> grind

/-- The record is always that of one run. -/
theorem Steps.id_record (h : c.Steps own c') :
    c'.record.map (·.id) = (c.record.or (own.findSome? Event.created?)).map (·.id) := by
  induction h with
  | nil => simp
  | @cons c _ _ event _ hstep _ ih =>
    rw [ih, hstep.record, List.findSome?_cons]
    cases c.record <;> cases event.created? <;> simp

/-- The state is the last one that was recorded, or else the one the record came with. -/
theorem Steps.state_record (h : c.Steps own c') :
    c'.record.map (·.state) = (own.filterMap Event.recorded?).getLast?.or
      ((c.record.or (own.findSome? Event.created?)).map (·.state)) := by
  induction h with
  | nil => simp
  | @cons c _ _ event _ hstep _ ih =>
    -- Nothing is recorded before there is a record, so no state comes before the first one.
    have hnone := hstep.recorded?
    rw [ih, hstep.record, List.findSome?_cons, List.filterMap_cons]
    cases hr : c.record <;> cases event.created? <;> cases hs : event.recorded?
    all_goals simp_all [List.getLast?_cons]

/-- What is known where a proposal is made. -/
theorem Steps.of_propose {earlier later : List Event} {id : Uuid} {s : State}
    {answer : Except ClientError Answer}
    (h : c.Steps (earlier ++ .propose id s answer :: later) c') :
    ∃ run : FlowRun, run.id = id ∧ c.Steps earlier ⟨true, some run⟩ := by
  obtain ⟨c₁, hearlier, hlater⟩ := h.exists_split
  cases hlater with
  | cons hstep _ =>
    cases hstep with
    | propose => exact ⟨_, rfl, hearlier⟩
    | aside ha => cases ha

/-! ## What an engine does is moves -/

/-- Between `w` and `w'` an engine made only moves, and they took `c` to `c'`. -/
def Moves (c : Contact) (w : World) (c' : Contact) (w' : World) : Prop :=
  ∃ own, w.Writes own w' ∧ c.Steps own c'

variable {w w' w'' : World}

theorem Moves.refl (c : Contact) (w : World) : c.Moves w c w := ⟨[], .refl w, .nil⟩

theorem Moves.trans (h : c.Moves w c' w') (h' : c'.Moves w' c'' w'') : c.Moves w c'' w'' := by
  obtain ⟨own, hw, hs⟩ := h
  obtain ⟨own', hw', hs'⟩ := h'
  exact ⟨own ++ own', hw.trans hw', hs.append hs'⟩

theorem Step.moves (h : c.Step event c') (hw : w.Writes [event] w') : c.Moves w c' w' :=
  ⟨[event], hw, h.steps⟩

theorem moves_close (record : Option FlowRun) (w : World) :
    Moves ⟨true, record⟩ w ⟨false, record⟩ w.close := Step.close.moves w.writes_close

theorem moves_of_quiet (c : Contact) (h : w.Quiet w') : c.Moves w c w' := by
  obtain ⟨own, hw, hq⟩ := h
  exact ⟨own, hw, steps_of_aside hq⟩

theorem Moves.steps_conduct (h : c.Moves w c' w') : c.Steps (w.conduct w') c' := by
  obtain ⟨own, hw, hs⟩ := h
  rwa [hw.conduct]

end Contact

namespace Engine

open Contact

variable {e e' : Engine} {w w' : World} {limit : Nat} {s : State} {run : FlowRun} {c : Command}

theorem steps_of_answered {answers : List (Except ClientError Answer)}
    {r : Except EngineError State} (hc : e.connected = true) (hr : e.record = some run)
    (h : Answered answers r) :
    e.contact.Steps (answers.map (.propose run.id s)) (e.conclude r).contact := by
  have hcontact : e.contact = ⟨true, some run⟩ := by rw [contact, hc, hr]
  have happly (t : State) : (e.apply t).contact = ⟨true, some { run with state := t }⟩ := by
    simp [contact, apply, hc, hr]
  induction h with
  | accepted t | rejected t =>
    rw [hcontact, conclude, happly]
    exact Step.propose.steps
  | aborted | failed =>
    rw [conclude, hcontact]
    exact Step.propose.steps
  | again delay reason _ ih =>
    rw [hcontact] at ih ⊢
    exact .cons .propose ih

theorem Proposes.moves {r : Except EngineError State} (h : e.Proposes w s r e' w') :
    e.contact.Moves w e'.contact w' := by
  cases h with
  | shortCircuited | notStarted | unrecorded => exact .refl ..
  | answered _ hc hr hans hw => exact ⟨_, hw, steps_of_answered hc hr hans⟩

theorem Recording.steps {nested : Bool} {given : Option FlowRun} {own : List Event}
    {outcome : Except EngineError FlowRun} (h : Recording nested given own outcome) :
    Contact.Steps ⟨true, given⟩ own ⟨true, outcome.toOption.or given⟩ := by
  cases h with
  | given => exact .nil
  | @alone _ answer => cases answer <;> exact Step.createFlowRun.steps
  | unlinked => exact Step.createTaskRun.steps
  | @linked _ _ _ answer => cases answer <;> exact .cons .createTaskRun Step.createFlowRun.steps

theorem Checks.moves {r : Except EngineError Unit} (h : e.Checks w r e' w') :
    e.contact.Moves w e'.contact w' := by
  cases h with
  | settled => exact .refl ..
  | rejected hp => exact hp.moves
  | stopped hp => exact hp.moves

/-- An engine that starts: it connects, and then it gets a record or fails to. -/
theorem moves_connect {own : List Event} {outcome : Except EngineError FlowRun} {w₁ w₂ : World}
    (hc : e.connected = false) (hw : w.Writes [.connect (.ok ())] w₁)
    (hrecording : Recording w.nested e.record own outcome) (hown : w₁.Writes own w₂) :
    e.contact.Moves w ⟨true, outcome.toOption.or e.record⟩ w₂ := by
  have hopen : e.contact.Moves w ⟨true, e.record⟩ w₁ := by
    rw [contact, hc]
    exact Step.connect.moves hw
  exact hopen.trans ⟨own, hown, hrecording.steps⟩

theorem Starts.moves {r : Except EngineError Unit} (h : e.Starts w r e' w') :
    e.contact.Moves w e'.contact w' := by
  cases h with
  | already => exact .refl ..
  | refused hc hw =>
    rw [contact, hc]
    exact Step.connect.moves hw
  | unrecorded hc hw hrecording hown =>
    have hopen := moves_connect hc hw hrecording hown
    rw [contact, hc] at hopen ⊢
    exact hopen.trans (moves_close ..)
  | @stopped _ _ _ e₁ _ _ _ hc hw hrecording hown hchecks =>
    have hopen := (moves_connect hc hw hrecording hown).trans hchecks.moves
    rw [contact.eq_def e₁, hchecks.connected] at hopen
    exact hopen.trans (moves_close ..)
  | started hc hw hrecording hown hchecks =>
    exact (moves_connect hc hw hrecording hown).trans hchecks.moves

theorem moves_finish (e : Engine) (w : World) :
    e.contact.Moves w (e.finish w).1.contact (e.finish w).2 := by
  cases hc : e.connected with
  | false =>
    rw [finish_of_not_connected hc]
    exact .refl ..
  | true =>
    obtain ⟨w₁, hquiet, hfinish⟩ := exists_finish hc w
    rw [hfinish, contact, hc]
    exact (moves_of_quiet _ hquiet).trans (moves_close ..)

theorem moves_obey {r : Except EngineError c.Reply} (h : e.obey limit w c = some (r, e', w')) :
    e.contact.Moves w e'.contact w' := by
  cases hp : c.proposes with
  | true =>
    obtain ⟨s, outcome, hs, -⟩ := exists_setState_of_obey hp h
    exact (proposes_setState hs).moves
  | false =>
    cases c with
    | start => exact (starts_start h).moves
    | finish =>
      cases h
      exact moves_finish e w
    | beginRun | setState | handleSuccess | handleException => cases hp

end Engine

section

variable {e e' : Engine} {w w' : World} {limit : Nat} {own : List Event} {commands : List Command}

/-- **An engine makes no other calls**, whatever it is made to do and whatever it is answered. -/
theorem Session.contact (h : Session e own e') : e.contact.Steps own e'.contact := by
  induction h with
  | nil => exact .nil
  | step _ hobey ih => exact ih.append (Engine.moves_obey hobey).steps_conduct

/-- **What the journal shows was done**: while an engine obeys, its client is made the calls that are
in the journal afterwards, and no others. -/
theorem Engine.handles_obey {c : Command} {r : Except EngineError c.Reply}
    (h : e.obey limit w c = some (r, e', w')) : w.client.Handles (w.conduct w') w'.client := by
  obtain ⟨own, hw, -⟩ := moves_obey h
  rw [hw.conduct]
  exact hw.client

/-! ## Sessions in one world -/

/-- What becomes of an engine that obeys one command after the other, in one world. -/
def Engine.obeyAll (limit : Nat) : List Command → Engine → World → Option (Engine × World)
  | [], e, w => some (e, w)
  | c :: commands, e, w =>
    match e.obey limit w c with
    | none => none
    | some (_, e, w) => obeyAll limit commands e w

/-- When nothing happens between the operations, the journal shows what was done in the session. -/
theorem writes_obeyAll (h : e.obeyAll limit commands w = some (e', w')) :
    ∃ own, w.Writes own w' ∧ Session e own e' := by
  induction commands generalizing e w with
  | nil =>
    cases h
    exact ⟨[], .refl _, .nil⟩
  | cons c commands ih =>
    simp only [Engine.obeyAll] at h
    split at h
    · cases h
    · rename_i r e₁ w₁ hobey
      obtain ⟨own, hw, -⟩ := Engine.moves_obey hobey
      obtain ⟨own', hw', hrest⟩ := ih h
      have hfirst := Session.nil.step hobey
      rw [hw.conduct, List.nil_append] at hfirst
      exact ⟨own ++ own', hw.trans hw', hfirst.trans hrest⟩

theorem session_obeyAll (h : e.obeyAll limit commands w = some (e', w')) :
    Session e (w.conduct w') e' := by
  obtain ⟨own, hw, hsession⟩ := writes_obeyAll h
  rwa [hw.conduct]

/-- Everything but a straight run: to propose before the start, to start when the client does not
connect, to start a run whose orchestrator has it wait and then go on though its parameters are
invalid, to start it twice, to finish it twice and to start it again. -/
def Session.detours : List Command :=
  [.beginRun, .start, .finish, .start, .start, .setState (.completed default), .finish, .finish,
    .start, .handleSuccess .null]

/-- A world whose client does not connect at first. -/
def Session.unsteady : World :=
  { client := .inMemory
      { connects := [some (.error (.unreachable "nobody there"))]
        answers := [some (.ok (.wait default "busy")),
          some (.ok (.reject (.running default) "go on"))] } }

end

end RunEngine
