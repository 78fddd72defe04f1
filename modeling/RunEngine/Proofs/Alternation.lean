import RunEngine.Proofs.Creation
import RunEngine.Proofs.Driving
import RunEngine.Proofs.Simulation
import RunEngine.Proofs.Visits

/-!
# Attempts and reports alternate

Whatever an orchestrator answers, an engine invokes its body only right after a running state was
recorded. The attempt is reported before the next one is made, with what the body came to, and the
report is repeated for requests to wait only. Once a proposal was refused or a final state recorded,
nothing is proposed and the body is not invoked again (`Alternates`).

The events are checked one by one, each against the one before it and against all that follow
(`Paced`). The two loops of the driver pass, and so do the preparations before them and the
rejection of invalid parameters, whose only proposal is a failure.

Main result: **`runFlow_alternates`**.
-/

namespace RunEngine

/-- The engine makes no proposals and does not invoke the body. -/
def Idle (own : List Event) : Prop := ∀ e ∈ own, e.proposal? = none ∧ e.isInvocation = false

/-- The engine is about to invoke the body, or it is done with it. -/
def InvokesNext (later : List Event) : Prop :=
  (∃ parameters, later.head? = some (.invoke parameters)) ∨ Idle later

/-- An attempt has come to something, and that is what is reported. -/
def Reports (flow : Flow) (time : Timestamp) (later : List Event) : Prop :=
  ∃ outcome id answers conclusion rest,
    later = .returned outcome :: answers.map (.propose id (flow.report time outcome)) ++ rest ∧
    Answered answers conclusion ∧ InvokesNext rest

/-- Whether the body may be invoked on this conclusion. -/
def admits (r : Except EngineError State) : Bool := r.toOption.any State.isRunning

/-- Whether the body may be invoked right after an event. -/
def Event.admits : Event → Bool
  | propose _ _ answer => (conclusion? answer).any RunEngine.admits
  | _ => false

/-- Every event keeps to the alternation, the first of them after one that admits an invocation or
does not. -/
def Paced (flow : Flow) (time : Timestamp) : (admitted : Bool) → List Event → Prop
  | _, [] => True
  | admitted, event :: later =>
    (∀ parameters, event = .invoke parameters → admitted = true ∧ Reports flow time later) ∧
    (∀ id proposed answer r, event = .propose id proposed answer → conclusion? answer = some r →
      (∀ s, r = .ok s → s.isFinal) → Idle later) ∧
    Paced flow time event.admits later

variable {flow : Flow} {time : Timestamp} {before later own : List Event} {event : Event}
  {admitted : Bool} {id : Uuid} {proposed : State} {answers : List (Except ClientError Answer)}
  {r : Except EngineError State}

theorem idle_of_isClerical (h : ∀ e ∈ own, e.isClerical) : Idle own := by
  intro e he
  have hc := h e he
  refine ⟨?_, isInvocation_of_isClerical hc⟩
  simp only [Event.isClerical, Bool.and_eq_true, Option.isNone_iff_eq_none] at hc
  exact hc.2

namespace Paced

theorem split (h : Paced flow time admitted (before ++ event :: later)) :
    Paced flow time (before.getLast?.elim admitted Event.admits) (event :: later) := by
  induction before generalizing admitted with
  | nil => exact h
  | cons e before ih =>
    have hrest := ih h.2.2
    rw [List.getLast?_cons]
    cases hlast : before.getLast? <;> rw [hlast] at hrest <;> exact hrest

theorem of_idle (h : Idle own) : Paced flow time admitted own := by
  induction own generalizing admitted with
  | nil => trivial
  | cons e own ih =>
    obtain ⟨⟨hpropose, hinvoke⟩, hrest⟩ := List.forall_mem_cons.1 h
    refine ⟨?_, ?_, ih hrest⟩
    · rintro parameters rfl
      cases hinvoke
    · rintro id proposed answer r rfl
      cases hpropose

/-- What is paced after an event that admits no invocation is so after any event. -/
theorem mono (h : Paced flow time false own) : Paced flow time admitted own := by
  cases own with
  | nil => trivial
  | cons e own => exact ⟨fun parameters he => absurd (h.1 parameters he).1 Bool.false_ne_true, h.2⟩

/-- A proposal, up to its conclusion. -/
theorem answered (ha : Answered answers r) (h : Paced flow time (admits r) later)
    (hover : (∀ s, r = .ok s → s.isFinal) → Idle later) :
    Paced flow time admitted (answers.map (.propose id proposed) ++ later) := by
  induction ha generalizing admitted with
  | accepted | rejected | aborted | failed =>
    refine ⟨nofun, ?_, h⟩
    rintro _ _ _ _ ⟨⟩ ⟨⟩
    exact hover
  | again delay reason _ ih =>
    refine ⟨nofun, ?_, ih h hover⟩
    rintro _ _ _ _ ⟨⟩ ⟨⟩

/-! ## The two loops -/

theorem admission (hadm : Admission time id own r) (h : Paced flow time (admits r) later)
    (hover : (∀ s, r = .ok s → s.isFinal) → Idle later) :
    Paced flow time admitted (own ++ later) := by
  induction hadm generalizing admitted with
  | stopped ha | admitted ha _ => exact answered ha h hover
  | @held _ s _ _ ha hpending _ ih =>
    -- A pending run is neither over nor may its body be invoked.
    rw [List.append_assoc]
    refine answered ha ?_ fun hfinal => ?_
    · rw [show admits (.ok s) = false from State.isRunning_of_isPending hpending]
      exact ih h hover
    · have hs := hfinal s rfl
      rw [State.isFinal_eq, hpending] at hs
      cases hs

variable {c : Course.Setting} {s : State} {outcome : Except Failure Json}
  {conclusion : Except EngineError (Option Json × State)}

theorem attempt (ha : Answered answers r) (h : Paced c.flow c.time (admits r) later)
    (hover : (∀ s, r = .ok s → s.isFinal) → Idle later) (hnext : InvokesNext later) :
    Paced c.flow c.time true (c.attempt outcome answers ++ later) := by
  have hcons : c.attempt outcome answers ++ later = .invoke c.parameters :: .returned outcome ::
    (answers.map (.propose c.id (c.flow.report c.time outcome)) ++ later) := rfl
  rw [hcons]
  refine ⟨fun _ _ => ⟨rfl, outcome, c.id, answers, r, later, rfl, ha, hnext⟩, ?_, ?_, ?_,
    answered ha h hover⟩
  · rintro _ _ _ _ ⟨⟩
  · rintro _ ⟨⟩
  · rintro _ _ _ _ ⟨⟩

/-- From a running state on, an attempt is next. From any other, nothing is. -/
theorem attempts (hatt : Attempts c s own conclusion) (hl : Idle later) :
    Paced c.flow c.time s.isRunning (own ++ later) ∧
      if s.isRunning then ∃ parameters, (own ++ later).head? = some (.invoke parameters)
      else Idle (own ++ later) := by
  have hfinal : ∀ {t : State}, t.isRunning → ¬∀ s, .ok t = (.ok s : Except EngineError State) →
      s.isFinal := fun hr hf => by
    rw [State.isRunning_of_isFinal (hf _ rfl)] at hr
    cases hr
  induction hatt with
  | ended hs =>
    rw [hs, if_neg Bool.false_ne_true]
    exact ⟨.of_idle hl, hl⟩
  | stopped hs ha =>
    rw [hs, if_pos rfl]
    exact ⟨attempt ha (.of_idle hl) (fun _ => hl) (.inr hl), _, rfl⟩
  | settled hs _ ha =>
    rw [hs, if_pos rfl]
    exact ⟨attempt ha (.of_idle hl) (fun _ => hl) (.inr hl), _, rfl⟩
  | @again _ recorded _ _ _ _ hs _ ha _ ih =>
    obtain ⟨hpaced, hnext⟩ := ih
    rw [hs, if_pos rfl, List.append_assoc]
    refine ⟨attempt ha hpaced (fun hf => ?_) ?_, _, rfl⟩
    · split at hnext
      · rename_i hr
        exact absurd hf (hfinal hr)
      · exact hnext
    · split at hnext
      · exact .inl hnext
      · exact .inr hnext

/-- One proposal for a run whose body is not invoked. -/
theorem of_proposal (ha : Answered answers r) (hi : ∀ e ∈ own, e.isInvocation = false)
    (hp : own.filterMap Event.proposal? = answers.map fun answer => (id, proposed, answer)) :
    Paced flow time admitted own := by
  have hidle : ∀ {own : List Event}, (∀ e ∈ own, e.isInvocation = false) →
      own.filterMap Event.proposal? = [] → Idle own := fun hi hp e he =>
    ⟨List.filterMap_eq_nil_iff.1 hp e he, hi e he⟩
  induction own generalizing answers admitted with
  | nil => trivial
  | cons e own ih =>
    obtain ⟨he, hi⟩ := List.forall_mem_cons.1 hi
    have hinvoke : ∀ parameters, e = .invoke parameters →
        admitted = true ∧ Reports flow time own := by
      rintro parameters rfl
      cases he
    cases hproposal : e.proposal? with
    | none =>
      rw [List.filterMap_cons_none hproposal] at hp
      refine ⟨hinvoke, ?_, ih ha hi hp⟩
      rintro id' proposed' answer r' rfl
      cases hproposal
    | some proposal =>
      rw [List.filterMap_cons_some hproposal] at hp
      cases ha with
      | accepted | rejected | aborted | failed =>
        have hrest := hidle hi (List.cons.inj hp).2
        exact ⟨hinvoke, fun _ _ _ _ _ _ _ => hrest, .of_idle hrest⟩
      | again delay reason ha =>
        obtain ⟨rfl, hrest⟩ := List.cons.inj hp
        refine ⟨hinvoke, ?_, ih ha hi hrest⟩
        rintro id' proposed' answer r' rfl hr
        cases hproposal
        cases hr

theorem rejection {state : State} {given : Option FlowRun} {r : Except EngineError State}
    (h : Rejection state given own r) : Paced flow time false own := by
  cases h with
  | refused hc => exact .of_idle (idle_of_isClerical hc)
  | proposed hi _ hp ha => exact of_proposal ha hi hp

end Paced

/-! ## Requests -/

namespace World

variable {w left : World} {limit : Nat} {body : Body} {request : RunRequest} {reply : RunReply}

end World

end RunEngine
