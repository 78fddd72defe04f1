import RunEngine.Proofs.Blame
import RunEngine.Proofs.Session

/-!
# Runs that came back

A run came back when its engine was started and its driver ended, be it with an error. What its
engine did until then is a `Comeback`. The calls tell the last state that was applied to the run:
the last one that the orchestrator recorded, or else the one that the record came with
(`Engine.state?_driven`).

That state is a final one, except in two cases (`Comeback.IsCutShort`). The last proposal was
refused, by an order to stop or by a client that failed: then the engine stops with what it has, and
as it was not done, that is not final. Or the engine proposed a final state and the orchestrator
recorded another one. **`World.Launches.exists_leaves`** says that these are all: a proposal to run
is never the last of a driver, unless it finds the run over.
-/

namespace RunEngine

/-- A run that was started and whose driver came back: the record that it was given, if any, and
what its engine did until then. -/
structure Comeback where
  given : Option FlowRun
  own : List Event

namespace Comeback

/-- The state that the record of the run came with. -/
def first? (c : Comeback) : Option State :=
  (c.given.or (c.own.findSome? Event.created?)).map (·.state)

/-- The states that were recorded for the run, in order. -/
def recorded (c : Comeback) : List State := c.own.filterMap Event.recorded?

/-- The last state that was applied to the run. -/
def last? (c : Comeback) : Option State := c.recorded.getLast?.or c.first?

/-- Why a run that came back may not be over. -/
inductive IsCutShort (c : Comeback) : Prop
  /-- The last proposal was refused, and it was not that of a run that had been over before. -/
  | refused {id : Uuid} {proposed : State} {answer : Except ClientError Answer}
      {error : EngineError} : lastProposal c.own = some (id, proposed, answer) →
      conclusion? answer = some (.error error) →
      (c.recorded = [] → ∀ s, c.first? = some s → s.isFinal = false) → IsCutShort c
  /-- A final state was proposed last, and for it a state that is not final was recorded. -/
  | overruled {id : Uuid} {proposed s : State} {answer : Answer} :
      lastProposal c.own = some (id, proposed, .ok answer) → proposed.isFinal →
      answer.recorded? = some s → s.isFinal = false → IsCutShort c

end Comeback

namespace Event

/-- An event that proposes a final state, if it is a proposal. -/
def ProposesEnd (e : Event) : Prop := ∀ id s answer, e = propose id s answer → s.isFinal

theorem proposesEnd_of_proposal? {e : Event} (h : e.proposal? = none) : e.ProposesEnd := by
  rintro _ _ _ rfl
  cases h

end Event

variable {own own' before : List Event} {answers : List (Except ClientError Answer)} {id : Uuid}
  {s t : State}

/-! ## What was recorded last -/

theorem recorded?_of_proposal? {e : Event} (h : e.proposal? = none) : e.recorded? = none := by
  cases e <;> first | rfl | cases h

theorem recorded_of_isPlain (h : ∀ e ∈ own, e.IsPlain) : own.filterMap Event.recorded? = [] :=
  List.filterMap_eq_nil_iff.2 fun e he => recorded?_of_proposal? (h e he).1

/-- The answers to a proposal record the state that it ends with, if it ends with one. -/
theorem Answered.recorded {r : Except EngineError State} (h : Answered answers r) :
    (answers.map (.propose id s)).filterMap Event.recorded? = r.toOption.toList := by
  induction h with
  | accepted | rejected | aborted | failed => rfl
  | again _ _ _ ih => exact ih

theorem mem_of_lastProposal {answer : Except ClientError Answer}
    (h : lastProposal own = some (id, s, answer)) : .propose id s answer ∈ own := by
  obtain ⟨e, he, hp⟩ := List.mem_filterMap.1 (List.mem_of_getLast? h)
  cases e <;> cases hp
  exact he

/-- The state that is recorded for the last proposal is the last one that is recorded. -/
theorem getLast?_recorded {answer : Except ClientError Answer}
    (h : lastProposal own = some (id, s, answer)) (ha : conclusion? answer = some (.ok t)) :
    (own.filterMap Event.recorded?).getLast? = some t := by
  obtain ⟨a, rfl, hr⟩ := conclusion?_eq_ok.1 ha
  have hrecorded : Event.recorded? = fun e =>
      e.proposal?.bind fun p => p.2.2.toOption.bind (·.recorded?) := by
    funext e
    cases e with
    | propose _ _ answer => cases answer <;> rfl
    | _ => rfl
  obtain ⟨earlier, hsplit⟩ := List.getLast?_eq_some_iff.1 h
  rw [hrecorded, ← List.filterMap_filterMap, hsplit, List.filterMap_append]
  simp [Except.toOption, hr]

/-! ## The loops of the driver -/

/-- Nothing was recorded that is final. -/
def Unsettled (own : List Event) : Prop := ∀ s ∈ own.filterMap Event.recorded?, s.isFinal = false

theorem Unsettled.append (h : Unsettled own) (h' : Unsettled own') : Unsettled (own ++ own') := by
  rw [Unsettled, List.filterMap_append]
  exact List.forall_mem_append.2 ⟨h, h'⟩

theorem unsettled_of_isPlain (h : ∀ e ∈ own, e.IsPlain) : Unsettled own := by
  rw [Unsettled, recorded_of_isPlain h]
  exact List.forall_mem_nil _

theorem Answered.unsettled {r : Except EngineError State} (h : Answered answers r)
    (hr : ∀ s, r = .ok s → s.isFinal = false) :
    Unsettled (answers.map (.propose id t)) := by
  rw [Unsettled, h.recorded]
  cases r with
  | error => exact List.forall_mem_nil _
  | ok s => exact List.forall_mem_singleton.2 (hr s rfl)

/-- All that is recorded for proposals to run, until the driver goes on, leaves the run pending. -/
theorem Admission.unsettled {time : Timestamp} {conclusion : Except EngineError State}
    (h : Admission time id own conclusion) (hc : ∀ s, conclusion = .ok s → s.isFinal = false) :
    Unsettled own := by
  induction h with
  | stopped hans | admitted hans => exact hans.unsettled hc
  | held hans hp _ ih =>
    refine (hans.unsettled ?_).append (ih hc)
    rintro _ ⟨⟩
    rw [State.isFinal_eq, hp]
    rfl

/-- Attempts are made of a run that is running, so if they were stopped it was never over. -/
theorem Attempts.unsettled {c : Course.Setting} {error : EngineError}
    {conclusion : Except EngineError (Option Json × State)} (h : Attempts c s own conclusion)
    (hc : conclusion = .error error) : s.isFinal = false ∧ Unsettled own := by
  have hattempt {outcome : Except Failure Json} {r : Except EngineError State}
      {answers : List (Except ClientError Answer)} (hans : Answered answers r)
      (hr : ∀ s, r = .ok s → s.isFinal = false) : Unsettled (c.attempt outcome answers) :=
    hans.unsettled hr
  induction h with
  | ended | settled => cases hc
  | stopped hs hans => exact ⟨State.isFinal_of_isRunning hs, hattempt hans (by simp)⟩
  | again hs _ hans _ ih =>
    obtain ⟨hrecorded, hrest⟩ := ih hc
    refine ⟨State.isFinal_of_isRunning hs, (hattempt hans ?_).append hrest⟩
    rintro _ ⟨⟩
    exact hrecorded

theorem Course.unsettled {c : Course.Setting} {error : EngineError}
    (h : Course c own (.error error)) : Unsettled own := by
  cases h with
  | stopped hadm => exact hadm.unsettled (by simp)
  | admitted hadm hatt =>
    obtain ⟨hs, hrest⟩ := hatt.unsettled rfl
    refine (hadm.unsettled ?_).append hrest
    rintro _ ⟨⟩
    exact hs

/-! ## Ends -/

/-- What a driver may come back from: a proposal that was refused, before anything final was
recorded, or one that was answered with a state. A proposal to run is only the last one if that
state is final. -/
inductive Ends (own : List Event) : Prop
  | refused {id : Uuid} {proposed : State} {answer : Except ClientError Answer}
      {error : EngineError} : lastProposal own = some (id, proposed, answer) →
      conclusion? answer = some (.error error) → Unsettled own → Ends own
  | answered {id : Uuid} {proposed s : State} {answer : Except ClientError Answer} :
      lastProposal own = some (id, proposed, answer) → conclusion? answer = some (.ok s) →
      (proposed.isFinal ∨ s.isFinal) → Ends own

theorem Course.ends {c : Course.Setting}
    {conclusion : Except EngineError (Option Json × State)} (h : Course c own conclusion)
    (hb : ∀ e ∈ before, e.IsPlain) : Ends (before ++ own) := by
  obtain ⟨earlier, proposed, answer, rfl, hanswer, hlast⟩ := h.exists_last
  have hproposal : lastProposal (before ++ (earlier ++ [.propose c.id proposed answer])) =
      some (c.id, proposed, answer) := by
    rw [← List.append_assoc]
    exact lastProposal_concat
  rcases conclusion with error | ⟨value, s⟩
  · exact .refused hproposal hanswer ((unsettled_of_isPlain hb).append h.unsettled)
  · refine .answered hproposal hanswer ?_
    cases hlast with
    | admission hend => exact .inr (hend value s rfl).2
    | report attempt =>
      have htype := c.flow.type_report c.time attempt
      exact .inl (by rw [State.isFinal, htype]; split <;> rfl)

/-- The state that a run comes back in is final, or else the run was cut short. -/
theorem Ends.isFinal_iff {c : Comeback} (h : Ends c.own) (hs : c.last? = some s) :
    s.isFinal = false ↔ c.IsCutShort := by
  cases h with
  | @refused _ _ _ error hlast hanswer hunsettled =>
    refine ⟨fun hf => .refused hlast hanswer fun hnone t ht => ?_, fun hcut => ?_⟩
    · rw [Comeback.last?, hnone, List.getLast?_nil, Option.none_or, ht] at hs
      cases hs
      exact hf
    · cases hcut with
      | overruled hlast' _ hr =>
        cases hlast.symm.trans hlast'
        cases hanswer.symm.trans (conclusion?_eq_ok.2 ⟨_, rfl, hr⟩)
      | refused _ _ hfirst =>
        cases hrecorded : c.recorded.getLast? with
        | none =>
          rw [Comeback.last?, hrecorded, Option.none_or] at hs
          exact hfirst (List.getLast?_eq_none_iff.1 hrecorded) s hs
        | some t =>
          rw [Comeback.last?, hrecorded, Option.some_or] at hs
          cases hs
          exact hunsettled _ (List.mem_of_getLast? hrecorded)
  | @answered _ _ t _ hlast hanswer hor =>
    have hrecorded : c.recorded.getLast? = some t := getLast?_recorded hlast hanswer
    rw [Comeback.last?, hrecorded, Option.some_or] at hs
    cases hs
    obtain ⟨a, rfl, hr⟩ := conclusion?_eq_ok.1 hanswer
    refine ⟨fun hf => .overruled hlast (hor.resolve_right (by simp [hf])) hr hf, fun hcut => ?_⟩
    cases hcut with
    | refused hlast' herror =>
      cases hlast.symm.trans hlast'
      cases hanswer.symm.trans herror
    | overruled hlast' _ hr' hf =>
      cases hlast.symm.trans hlast'
      cases hr.symm.trans hr'
      exact hf

/-! ## Engines -/

namespace Contact

variable {c c' c'' : Contact} {w w' w'' : World}

/-- Between `w` and `w'` the engine at the depth of `w` made only moves, whatever was done in its
body, and they took `c` to `c'`. -/
def Passes (c : Contact) (w : World) (c' : Contact) (w' : World) : Prop :=
  ∃ own, w.Passage own w' ∧ c.Steps own c'

theorem Passes.trans (h : c.Passes w c' w') (h' : c'.Passes w' c'' w'') :
    c.Passes w c'' w'' := by
  obtain ⟨own, hp, hs⟩ := h
  obtain ⟨own', hp', hs'⟩ := h'
  exact ⟨own ++ own', hp.trans hp', hs.append hs'⟩

theorem Moves.passes {P : Event → Prop} (h : c.Moves w c' w') (hl : w.Leads P w') :
    c.Passes w c' w' := by
  obtain ⟨own, hw, hs⟩ := h
  exact ⟨own, hw.passage hl, hs⟩

theorem Passes.steps_conduct (h : c.Passes w c' w') : c.Steps (w.conduct w') c' := by
  obtain ⟨own, hp, hs⟩ := h
  rwa [hp.conduct]

end Contact

namespace Engine

open World

variable {e e' e₁ : Engine} {w w' w₁ : World} {limit : Nat} {body : Invoke} {vs : List Visit}
  {options : RunOptions} {outcome : Except EngineError RunOutput}

/-- An invocation leaves the record and the connection of an engine alone. -/
theorem contact_invoke {outcome : Except Failure Json}
    (h : e.invoke body w = some (outcome, e', w')) : e'.contact = e.contact := by
  obtain ⟨_, _, -, -, rfl, -⟩ := exists_inside_of_invoke h
  rfl

theorem passes_driven (hb : body.KeepsFrame) (h : Driven body e w vs e' w') :
    e.contact.Passes w e'.contact w' := by
  induction h with
  | nil => exact ⟨[], .refl _, .nil⟩
  | propose _ hset ih =>
    exact ih.trans ((proposes_setState hset).moves.passes (leads_setState hset))
  | sleep duration _ ih => exact ih.trans ⟨[], World.passage_sleep .., .nil⟩
  | invoke _ _ hinvoke ih =>
    refine ih.trans ⟨_, passage_invoke hb hinvoke, ?_⟩
    rw [contact_invoke hinvoke]
    exact Contact.steps_of_aside (by simp [Event.isCall])

/-- **The state of an engine** that was started and driven is the last one that was applied. -/
theorem state?_driven (hb : body.KeepsFrame) (hs : e.start limit w = some (.ok (), e₁, w₁))
    (hd : Driven body e₁ w₁ vs e' w') :
    e'.state? = Comeback.last? { given := e.record, own := w.conduct w' } := by
  have hpasses := ((starts_start hs).moves.passes (leads_start hs)).trans (passes_driven hb hd)
  exact hpasses.steps_conduct.state_record

/-! ### What is proposed at the start -/

theorem writesOnly_setState {r : Except EngineError State} (hf : s.isFinal)
    (h : e.setState limit w s = some (r, e', w')) : w.WritesOnly Event.ProposesEnd w' := by
  cases proposes_setState h with
  | shortCircuited | notStarted | unrecorded => exact .refl ..
  | answered _ _ _ _ hw =>
    refine ⟨_, hw, fun event hevent => ?_⟩
    obtain ⟨answer, -, rfl⟩ := List.mem_map.1 hevent
    rintro _ _ _ ⟨⟩
    exact hf

/-- All that is proposed for invalid parameters is a failure. -/
theorem writesOnly_checkParameters {r : Except EngineError Unit}
    (h : e.checkParameters limit w = some (r, e', w')) : w.WritesOnly Event.ProposesEnd w' := by
  simp only [checkParameters] at h
  split at h
  · cases h
    exact .refl ..
  · split at h
    · cases h
      exact .refl ..
    · split at h <;> cases h <;> rename_i hexception
      all_goals exact writesOnly_setState rfl hexception

/-- **Nothing but a failure is proposed while an engine is started.** -/
theorem writesOnly_start (hc : e.connected = false)
    (h : e.start limit w = some (.ok (), e', w')) : w.WritesOnly Event.ProposesEnd w' := by
  have hconnect : w.WritesOnly Event.ProposesEnd w.connect.2 :=
    w.writes_connect.only (Event.proposesEnd_of_proposal? rfl)
  simp only [start, hc, Bool.false_eq_true, if_false] at h
  split at h <;> rename_i heq <;> rw [heq] at hconnect
  · cases h
  · rename_i w₁
    split at h <;> cases h
    rename_i hsetup
    obtain ⟨own, hrecording, hw, -⟩ := recording_ensureRecord { e with connected := true } w₁
    simp only [setup] at hsetup
    split at hsetup <;> rename_i hensure <;> rw [hensure] at hrecording hw
    · cases hsetup
    · have hensured : w₁.WritesOnly Event.ProposesEnd _ :=
        ⟨own, hw, fun e he => Event.proposesEnd_of_proposal? (hrecording.proposal? e he)⟩
      split at hsetup <;> cases hsetup
      rename_i hcheck
      exact (hconnect.trans hensured).trans (writesOnly_checkParameters hcheck)

/-- **What a driver comes back from**, whether it drove the run or found that it was over. -/
theorem ends_drive (hb : body.KeepsFrame) (ha : e.standing = .active) (hc : e.connected = false)
    (hs : e.start limit w = some (.ok (), e₁, w₁))
    (hd : e₁.drive limit body options w₁ = some (outcome, e', w')) : Ends (w.conduct w') := by
  obtain ⟨opening, hp, ⟨hplain, parameters, id, hruns⟩ | ⟨s, hover, hconcludes⟩⟩ :=
    exists_opening ha hc hs
  · obtain ⟨own, conclusion, hp', hcourse, -⟩ := hruns.drive hb hd
    rw [(hp.trans hp').conduct]
    exact hcourse.ends hplain
  · have hfailures := (writesOnly_start hc hs).conduct
    rw [drive_of_shortCircuited hover.standing hover.state (pos_of_drive hd)] at hd
    cases hd
    rw [hp.conduct] at hfailures ⊢
    obtain ⟨id, proposed, answer, hlast, hanswer⟩ := hconcludes.last
    exact .answered hlast hanswer (.inl (hfailures _ (mem_of_lastProposal hlast) _ _ _ rfl))

/-- An engine that was started has a record. -/
theorem isSome_record_start (ha : e.standing = .active) (hc : e.connected = false)
    (hs : e.start limit w = some (.ok (), e₁, w₁)) : e₁.record.isSome := by
  obtain ⟨-, -, ⟨-, _, _, hruns⟩ | ⟨s, hover, -⟩⟩ := exists_opening ha hc hs
  · obtain ⟨run, hr, -⟩ := hruns.drives.record
    simp [hr]
  · have hstate := hover.state
    rw [state?] at hstate
    cases hr : e₁.record with
    | none => simp [hr] at hstate
    | some => rfl

theorem isSome_record_driven (hb : body.KeepsFrame) (h : Driven body e w vs e' w')
    (hr : e.record.isSome) : e'.record.isSome := by
  have hid := (passes_driven hb h).steps_conduct.id_record
  simp only [contact] at hid
  obtain ⟨run, hrun⟩ := Option.isSome_iff_exists.1 hr
  rw [hrun, Option.some_or, Option.map_some] at hid
  obtain ⟨run', hrun', -⟩ := Option.map_eq_some_iff.1 hid
  simp [hrun']

theorem connected_start (h : e.start limit w = some (.ok (), e', w')) : e'.connected := by
  cases starts_start h with
  | already hc => exact hc
  | started _ _ _ _ hchecks => exact hchecks.connected

theorem connected_driven (h : Driven body e w vs e' w') : e'.connected = e.connected := by
  induction h with
  | nil => rfl
  | propose _ hset ih => exact (proposes_setState hset).connected.trans ih
  | sleep _ _ ih => exact ih
  | invoke _ _ hinvoke ih => exact (congrArg Contact.isOpen (contact_invoke hinvoke)).trans ih

end Engine

/-! ## Requests -/

/-- The state that a run came back in: the last one that was applied to it, and final unless it was
cut short. -/
structure Comeback.Leaves (c : Comeback) (s : State) : Prop where
  last : c.last? = some s
  isFinal : s.isFinal = false ↔ c.IsCutShort

namespace World

/-- The request has a client, and its run was started: the world `entered` became `started`, and `e`
is to be driven. -/
structure Launches (w : World) (limit : Nat) (flow : Flow) (request : RunRequest)
    (entered : World) (e : Engine) (started : World) : Prop where
  boarded : ∃ client, w.clientFor request.options = .ok client ∧
    { w with client }.board request.entry = (.ok (), entered)
  start : (engineFor flow request).start limit entered = some (.ok (), e, started)

/-- The run of a request, if it was started and its driver came back. -/
def comeback? (limit : Nat) (body : Invoke) (flow : Flow) (request : RunRequest) (w : World) :
    Option Comeback :=
  match w.clientFor request.options with
  | .error _ => none
  | .ok client =>
    match { w with client }.board request.entry with
    | (.error _, _) => none
    | (.ok (), entered) =>
      match (engineFor flow request).start limit entered with
      | some (.ok (), e, started) =>
        (e.drive limit body request.options started).map fun (_, _, left) =>
          { given := request.options.flowRun, own := entered.conduct left }
      | _ => none

variable {w entered started left : World} {limit : Nat} {body : Invoke} {flow : Flow}
  {request : RunRequest} {e e' : Engine} {outcome : Except EngineError RunOutput}

/-- **A run comes back in the last state that was applied to it**, which is final unless the run was
cut short. -/
theorem Launches.exists_leaves (h : w.Launches limit flow request entered e started)
    (hb : body.KeepsFrame)
    (hd : e.drive limit body request.options started = some (outcome, e', left)) :
    ∃ c s, w.comeback? limit body flow request = some c ∧ e'.state? = some s ∧ c.Leaves s := by
  obtain ⟨client, hc, hboard⟩ := h.boarded
  have hdriven := Engine.driven_drive hd
  have hstate := Engine.state?_driven hb h.start hdriven
  obtain ⟨run, hrun⟩ := Option.isSome_iff_exists.1 <|
    Engine.isSome_record_driven hb hdriven (Engine.isSome_record_start rfl rfl h.start)
  have hs : e'.state? = some run.state := by rw [Engine.state?, hrun, Option.map_some]
  refine ⟨{ given := request.options.flowRun, own := entered.conduct left }, run.state, ?_, hs,
    hstate.symm.trans hs, ?_⟩
  · simp only [comeback?, hc, hboard, h.start, hd, Option.map_some]
  · exact (Engine.ends_drive hb rfl rfl h.start hd).isFinal_iff (hstate.symm.trans hs)

end World

end RunEngine
