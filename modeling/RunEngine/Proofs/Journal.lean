import RunEngine.Proofs.CallLog
import RunEngine.Proofs.Proposal

/-!
# What an engine writes in the journal

While an engine is at work on its own, and its body is not, nobody else writes in the journal. What
an operation does is then all that is added to it: `Writes w own w'` says that between `w` and `w'`
the journal got the events `own`, at the depth of `w`, and no others, and that they took place: the
client was made the calls among them, and gave the answers that they tell. (A `Passage` leaves open
what nested runs did in the meantime.)

Every operation is told in full, by the events it may write and the engine it may leave:

* `Proposes` tells what comes of a proposal,
* `Recording` how an engine without a record gets one,
* `Checks` what comes of the parameters, and
* `Starts` and `exists_finish` how an engine is started and finished.

Nothing that is said here depends on the client: it may refuse any call and answer a proposal with
any state.
-/

namespace RunEngine

namespace Event

/-- Whether an event is a call that an engine makes on its client. A client is forked by the caller,
before there is an engine. -/
def isCall : Event → Bool
  | connect _ | createTaskRun .. | createFlowRun .. | propose .. | close => true
  | invoke _ | returned _ | settle _ | report _ | fork _ => false

/-- The record that was created. -/
def created? : Event → Option FlowRun
  | createFlowRun _ (.ok run) => some run
  | _ => none

/-- The state that the orchestrator recorded. -/
def recorded? : Event → Option State
  | propose _ _ (.ok answer) => answer.recorded?
  | _ => none

/-- An event that is a proposal for the run `id`. -/
def ProposesFor (id : Uuid) (e : Event) : Prop := ∃ s answer, e = propose id s answer

theorem ProposesFor.turns {id : Uuid} {e : Event} (h : e.ProposesFor id) :
    e.opens = false ∧ e.closes = false := by
  obtain ⟨s, answer, rfl⟩ := h
  exact ⟨rfl, rfl⟩

/-- Only calls open or close a client, create records or have states recorded. -/
theorem of_isCall_eq_false {e : Event} (h : e.isCall = false) :
    e.opens = false ∧ e.closes = false ∧ e.created? = none ∧ e.recorded? = none := by
  cases e with
  | connect | createTaskRun | createFlowRun | propose | close => cases h
  | invoke | returned | settle | report | fork => exact ⟨rfl, rfl, rfl, rfl⟩

end Event

/-! ## Writing -/

namespace World

variable {w w' w'' : World} {own own' : List Event} {P Q : Event → Prop}

/-- Whether a run that is started here is started inside another one. -/
def nested (w : World) : Bool := 0 < w.scopes.length

/-- `w'` comes after `w`, and in between the journal got the events `own` at the depth of `w`. -/
structure Adds (w : World) (own : List Event) (w' : World) : Prop where
  depth : w'.scopes.length = w.scopes.length
  events : w'.journal.events = w.journal.events ++ own.map fun e => (w.scopes.length, e)

theorem Adds.refl (w : World) : w.Adds [] w := ⟨rfl, (List.append_nil _).symm⟩

theorem Adds.trans (h : w.Adds own w') (h' : w'.Adds own' w'') : w.Adds (own ++ own') w'' where
  depth := h'.depth.trans h.depth
  events := by rw [h'.events, h.events, h.depth, List.map_append, List.append_assoc]

/-- `w'` comes after `w`, and in between the events `own` took place at the depth of `w`: the
journal got them, and the client was called. -/
structure Writes (w : World) (own : List Event) (w' : World) : Prop extends w.Adds own w' where
  client : w.client.Handles own w'.client

theorem Writes.refl (w : World) : w.Writes [] w := ⟨.refl w, .nil⟩

theorem Writes.trans (h : w.Writes own w') (h' : w'.Writes own' w'') :
    w.Writes (own ++ own') w'' :=
  ⟨h.toAdds.trans h'.toAdds, h.client.trans h'.client⟩

theorem Writes.nested (h : w.Writes own w') : w'.nested = w.nested := by
  rw [World.nested, World.nested, h.depth]

/-- What the journal got are the engine's own events. -/
theorem Writes.conduct (h : w.Writes own w') : w.conduct w' = own := by
  rw [World.conduct, h.events, List.drop_left, List.filter_eq_self.2 (by simp), List.map_map]
  exact List.map_id own

theorem writes_sleep (w : World) (duration : Nat) : w.Writes [] (w.sleep duration) :=
  ⟨⟨rfl, (List.append_nil _).symm⟩, .nil⟩

theorem writes_withScope {scope : Scope} (h : w.scopes ≠ []) :
    w.Writes [] (w.withScope scope) := by
  obtain ⟨s, rest, hs⟩ := List.exists_cons_of_ne_nil h
  exact ⟨⟨by simp [withScope, hs], (List.append_nil _).symm⟩, .nil⟩

theorem writes_connect (w : World) : w.Writes [.connect w.connect.1] w.connect.2 :=
  ⟨⟨rfl, rfl⟩, (Client.Hears.connect w.client).handles⟩

theorem writes_close (w : World) : w.Writes [.close] w.close :=
  ⟨⟨rfl, rfl⟩, (Client.Hears.close w.client).handles⟩

theorem writes_fork (w : World) : w.Writes [.fork w.fork.1] w.fork.2 :=
  ⟨⟨rfl, rfl⟩, (Client.Hears.fork w.client).handles⟩

theorem writes_createTaskRun (w : World) (request : TaskRunRequest) :
    w.Writes [.createTaskRun request (w.createTaskRun request).1] (w.createTaskRun request).2 :=
  ⟨⟨rfl, rfl⟩, (Client.Hears.createTaskRun w.client w.ids request).handles⟩

theorem writes_createFlowRun (w : World) (request : FlowRunRequest) :
    w.Writes [.createFlowRun request (w.createFlowRun request).1] (w.createFlowRun request).2 :=
  ⟨⟨rfl, rfl⟩, (Client.Hears.createFlowRun w.client w.ids w.now request).handles⟩

theorem writes_propose (w : World) (id : Uuid) (s : State) :
    w.Writes [.propose id s (w.propose id s).1] (w.propose id s).2 :=
  ⟨⟨rfl, rfl⟩, (Client.Hears.propose w.client w.now id s).handles⟩

/-- `w'` comes after `w`, and in between the journal got only events that are `P`, at the depth of
`w`. -/
def WritesOnly (w : World) (P : Event → Prop) (w' : World) : Prop :=
  ∃ own, w.Writes own w' ∧ ∀ e ∈ own, P e

theorem WritesOnly.refl (w : World) (P : Event → Prop) : w.WritesOnly P w :=
  ⟨[], .refl w, List.forall_mem_nil _⟩

theorem WritesOnly.trans (h : w.WritesOnly P w') (h' : w'.WritesOnly P w'') :
    w.WritesOnly P w'' := by
  obtain ⟨own, hw, hP⟩ := h
  obtain ⟨own', hw', hP'⟩ := h'
  exact ⟨own ++ own', hw.trans hw', List.forall_mem_append.2 ⟨hP, hP'⟩⟩

theorem WritesOnly.mono (h : w.WritesOnly P w') (hPQ : ∀ e, P e → Q e) : w.WritesOnly Q w' := by
  obtain ⟨own, hw, hP⟩ := h
  exact ⟨own, hw, fun e he => hPQ e (hP e he)⟩

theorem Writes.only {e : Event} (h : w.Writes [e] w') (he : P e) : w.WritesOnly P w' :=
  ⟨[e], h, by simpa using he⟩

theorem WritesOnly.conduct (h : w.WritesOnly P w') : ∀ e ∈ w.conduct w', P e := by
  obtain ⟨own, hw, hP⟩ := h
  rwa [hw.conduct]

/-- `w'` comes after `w`, and in between the engine made no call. -/
def Quiet (w w' : World) : Prop := w.WritesOnly (·.isCall = false) w'

theorem quiet_settle (w : World) (group : TaskGroup) : w.Quiet (w.settle group) := by
  have hw : w.Writes [.settle group.effective] (w.settle group) :=
    ⟨⟨rfl, rfl⟩, (Client.Hears.aside rfl).handles⟩
  exact hw.only rfl

theorem quiet_report (w : World) (s : State) : w.Quiet (w.report s) := by
  unfold report
  split
  · exact .refl ..
  · rename_i scope rest hs
    have hw : w.Writes [.report s]
        ({ w with scopes := scope.recordChild s :: rest }.record (.report s)) :=
      ⟨⟨by simp [World.record, hs], by simp [World.record, hs]⟩, (Client.Hears.aside rfl).handles⟩
    exact hw.only rfl

end World

namespace Engine

variable {e e' : Engine} {w w' : World} {limit : Nat} {id : Uuid} {s : State}

/-! ## Proposals -/

theorem writes_proposeUntilAnswered {r : Except EngineError State}
    (h : proposeUntilAnswered id s limit w = some (r, w')) :
    ∃ answers, Answered answers r ∧ w.Writes (answers.map (.propose id s)) w' := by
  induction limit generalizing w with
  | zero => simp [proposeUntilAnswered] at h
  | succ limit ih =>
    have hp := w.writes_propose id s
    simp only [proposeUntilAnswered] at h
    split at h <;> rename_i heq <;> rw [heq] at hp
    case h_3 =>
      obtain ⟨answers, hans, hp'⟩ := ih h
      exact ⟨_, .again _ _ hans, (hp.trans (World.writes_sleep ..)).trans hp'⟩
    all_goals cases h
    · exact ⟨_, .accepted _, hp⟩
    · exact ⟨_, .rejected _ _, hp⟩
    · exact ⟨_, .aborted _, hp⟩
    · exact ⟨_, .failed _, hp⟩

/-- The ways in which a proposal of the state `s` may end: what comes of it, and the engine and the
world afterwards. -/
inductive Proposes (e : Engine) (w : World) (s : State) :
    Except EngineError State → Engine → World → Prop
  | shortCircuited {held : State} : e.standing = .shortCircuited held →
      Proposes e w s (.ok held) e w
  | notStarted : e.standing = .active → e.connected = false →
      Proposes e w s (.error .notStarted) e w
  | unrecorded : e.standing = .active → e.connected = true → e.record = none →
      Proposes e w s (.error .missingFlowRun) e w
  | answered {run : FlowRun} {answers : List (Except ClientError Answer)}
      {r : Except EngineError State} {w' : World} :
      e.standing = .active → e.connected = true → e.record = some run → Answered answers r →
      w.Writes (answers.map (.propose run.id s)) w' → Proposes e w s r (e.conclude r) w'

theorem proposes_setState {r : Except EngineError State}
    (h : e.setState limit w s = some (r, e', w')) : e.Proposes w s r e' w' := by
  simp only [setState] at h
  split at h
  · cases h
    exact .shortCircuited ‹_›
  · rename_i hactive
    split at h
    · cases h
      rename_i hconnected
      exact .notStarted hactive (by simpa using hconnected)
    · rename_i hconnected
      replace hconnected : e.connected = true := by simpa using hconnected
      split at h
      · cases h
        exact .unrecorded hactive hconnected ‹_›
      · rename_i run hrecord
        split at h <;> cases h <;> rename_i heq
        all_goals
          obtain ⟨answers, hans, hw⟩ := writes_proposeUntilAnswered heq
          exact .answered hactive hconnected hrecord hans hw

/-- What is written by a proposal are proposals for the run of the engine. -/
theorem Proposes.writes {run : FlowRun} {r : Except EngineError State}
    (h : e.Proposes w s r e' w') (hr : e.record = some run) :
    w.WritesOnly (·.ProposesFor run.id) w' ∧ e'.record.map (·.id) = some run.id := by
  cases h with
  | shortCircuited | notStarted => exact ⟨.refl .., by rw [hr]; rfl⟩
  | unrecorded _ _ hnone => exact absurd (hr.symm.trans hnone) (by simp)
  | @answered _ answers r _ _ _ hrun _ hw =>
    obtain rfl : run = _ := Option.some.inj (hr.symm.trans hrun)
    refine ⟨⟨_, hw, fun event hevent => ?_⟩, ?_⟩
    · obtain ⟨answer, -, rfl⟩ := List.mem_map.1 hevent
      exact ⟨s, answer, rfl⟩
    · cases r <;> simp [conclude, apply, hr]

theorem connected_conclude (e : Engine) (r : Except EngineError State) :
    (e.conclude r).connected = e.connected := by
  cases r <;> rfl

theorem Proposes.connected {r : Except EngineError State} (h : e.Proposes w s r e' w') :
    e'.connected = e.connected := by
  cases h with
  | shortCircuited | notStarted | unrecorded => rfl
  | answered => exact connected_conclude ..

/-! ## Records -/

/-- The calls by which an engine comes to have a record, and the record or the error that kept it
from having one. One that was given a record makes none. -/
inductive Recording : (nested : Bool) → (given : Option FlowRun) → List Event →
    Except EngineError FlowRun → Prop
  | given {nested : Bool} {run : FlowRun} : Recording nested (some run) [] (.ok run)
  | alone {request : FlowRunRequest} {answer : Except ClientError FlowRun} :
      Recording false none [.createFlowRun request answer] (answer.mapError .client)
  | unlinked {request : TaskRunRequest} {error : ClientError} :
      Recording true none [.createTaskRun request (.error error)] (.error (.client error))
  | linked {task : TaskRunRequest} {parent : TaskRun} {request : FlowRunRequest}
      {answer : Except ClientError FlowRun} :
      Recording true none [.createTaskRun task (.ok parent), .createFlowRun request answer]
        (answer.mapError .client)

theorem Recording.turns {nested : Bool} {given : Option FlowRun} {own : List Event}
    {outcome : Except EngineError FlowRun} (h : Recording nested given own outcome) :
    ∀ event ∈ own, event.opens = false ∧ event.closes = false := by
  cases h <;> simp [Event.opens, Event.closes]

/-- Nothing is proposed before there is a record. -/
theorem Recording.proposal? {nested : Bool} {given : Option FlowRun} {own : List Event}
    {outcome : Except EngineError FlowRun} (h : Recording nested given own outcome) :
    ∀ event ∈ own, event.proposal? = none := by
  cases h <;> simp [Event.proposal?]

/-- The calls that link a run to the enclosing one. -/
theorem link_cases (e : Engine) (w : World) :
    w.nested = false ∧ e.link w = (.ok none, w) ∨
    w.nested = true ∧ ∃ request answer, w.Writes [.createTaskRun request answer] (e.link w).2 ∧
      (e.link w).1 = (answer.map fun task => some task.id).mapError .client := by
  simp only [link, World.nested]
  split <;> rename_i hs
  · exact .inl ⟨by rw [hs]; rfl, rfl⟩
  · rename_i parent rest
    have hscope : w.Writes [] (w.withScope (parent.nextDynamicKey e.flow.taskKey).2) :=
      World.writes_withScope (by simp [hs])
    refine .inr ⟨by rw [hs]; rfl, ?_⟩
    split <;> rename_i heq
    all_goals exact ⟨_, _, heq ▸ hscope.trans (World.writes_createTaskRun ..), rfl⟩

theorem recording_create (e : Engine) (w : World) : ∃ own,
    Recording w.nested none own (e.create w).1 ∧ w.Writes own (e.create w).2 := by
  have hlink := link_cases e w
  simp only [create]
  split <;> rename_i heq <;> rw [heq] at hlink
  · rcases hlink with ⟨-, hok⟩ | ⟨hn, request, answer, hw, hr⟩
    · cases hok
    · cases answer <;> cases hr
      rw [hn]
      exact ⟨_, .unlinked, hw⟩
  · split <;> rename_i hcreate
    all_goals
      rcases hlink with ⟨hn, hok⟩ | ⟨hn, request, answer, hw, hr⟩
      · cases hok
        rw [hn]
        exact ⟨_, .alone, hcreate ▸ World.writes_createFlowRun ..⟩
      · cases answer <;> cases hr
        rw [hn]
        exact ⟨_, .linked, hw.trans (hcreate ▸ World.writes_createFlowRun ..)⟩

theorem recording_ensureRecord (e : Engine) (w : World) : ∃ own,
    Recording w.nested e.record own (e.ensureRecord w).1 ∧ w.Writes own (e.ensureRecord w).2.2 ∧
    (e.ensureRecord w).2.1 = { e with record := (e.ensureRecord w).1.toOption.or e.record } := by
  obtain ⟨own, hrecording, hw⟩ := recording_create e w
  simp only [ensureRecord]
  split <;> rename_i hr
  · refine ⟨[], by rw [hr]; exact .given, .refl w, ?_⟩
    rw [hr]
    simp [Except.toOption, ← hr]
  · split <;> rename_i heq <;> rw [heq] at hrecording hw
    · exact ⟨own, hr ▸ hrecording, hw, rfl⟩
    · exact ⟨own, hr ▸ hrecording, hw, rfl⟩

/-! ## Parameters -/

/-- The ways in which checking the parameters may end. -/
inductive Checks (e : Engine) (w : World) : Except EngineError Unit → Engine → World → Prop
  | settled {parameters : Parameters} : Checks e w (.ok ()) { e with parameters } w
  | rejected {s held : State} {e' : Engine} {w' : World} : e.Proposes w s (.ok held) e' w' →
      Checks e w (.ok ()) { e' with standing := .shortCircuited held } w'
  | stopped {s : State} {error : EngineError} {e' : Engine} {w' : World} :
      e.Proposes w s (.error error) e' w' → Checks e w (.error error) e' w'

theorem checks_checkParameters {r : Except EngineError Unit}
    (h : e.checkParameters limit w = some (r, e', w')) : e.Checks w r e' w' := by
  simp only [checkParameters] at h
  split at h
  · cases h
    exact .settled
  · split at h
    · cases h
      exact .settled
    · split at h <;> cases h <;> rename_i heq
      · exact .stopped (proposes_setState heq)
      · exact .rejected (proposes_setState heq)

theorem Checks.writes {run : FlowRun} {r : Except EngineError Unit} (h : e.Checks w r e' w')
    (hr : e.record = some run) :
    w.WritesOnly (·.ProposesFor run.id) w' ∧ e'.record.map (·.id) = some run.id := by
  cases h with
  | settled => exact ⟨.refl .., by simp [hr]⟩
  | rejected hp => exact hp.writes hr
  | stopped hp => exact hp.writes hr

theorem Checks.connected {r : Except EngineError Unit} (h : e.Checks w r e' w') :
    e'.connected = e.connected := by
  cases h with
  | settled => rfl
  | rejected hp => exact hp.connected
  | stopped hp => exact hp.connected

/-! ## Starting -/

/-- The ways in which starting may end. -/
inductive Starts (e : Engine) (w : World) : Except EngineError Unit → Engine → World → Prop
  | already : e.connected = true → Starts e w (.ok ()) e w
  | refused {error : ClientError} {w' : World} : e.connected = false →
      w.Writes [.connect (.error error)] w' → Starts e w (.error (.connection error)) e w'
  | unrecorded {own : List Event} {error : EngineError} {w₁ w₂ : World} : e.connected = false →
      w.Writes [.connect (.ok ())] w₁ → Recording w.nested e.record own (.error error) →
      w₁.Writes own w₂ → Starts e w (.error error) e w₂.close
  | stopped {own : List Event} {run : FlowRun} {error : EngineError} {e' : Engine}
      {w₁ w₂ w₃ : World} : e.connected = false → w.Writes [.connect (.ok ())] w₁ →
      Recording w.nested e.record own (.ok run) → w₁.Writes own w₂ →
      { e with connected := true, record := some run }.Checks w₂ (.error error) e' w₃ →
      Starts e w (.error error) { e' with connected := false } w₃.close
  | started {own : List Event} {run : FlowRun} {e' : Engine} {w₁ w₂ w₃ : World} :
      e.connected = false → w.Writes [.connect (.ok ())] w₁ →
      Recording w.nested e.record own (.ok run) → w₁.Writes own w₂ →
      { e with connected := true, record := some run }.Checks w₂ (.ok ()) e' w₃ →
      Starts e w (.ok ()) e'.openScope w₃

theorem starts_start {r : Except EngineError Unit} (h : e.start limit w = some (r, e', w')) :
    e.Starts w r e' w' := by
  have hconnect := w.writes_connect
  simp only [start] at h
  split at h
  · cases h
    exact .already ‹_›
  · rename_i hc
    replace hc : e.connected = false := by simpa using hc
    split at h <;> rename_i heq <;> rw [heq] at hconnect
    · cases h
      exact .refused hc hconnect
    · rename_i w₁
      obtain ⟨own, hrecording, hw, he⟩ := recording_ensureRecord { e with connected := true } w₁
      rw [hconnect.nested] at hrecording
      simp only [setup] at h
      cases hensure : { e with connected := true }.ensureRecord w₁ with
      | mk outcome left =>
        obtain ⟨e₁, w₂⟩ := left
        rw [hensure] at h hrecording hw he
        cases outcome with
        | error error =>
          cases h
          obtain rfl : e₁ = { e with connected := true } := he
          have hback : { e with connected := false } = e := by rw [← hc]
          rw [hback]
          exact .unrecorded hc hconnect hrecording hw
        | ok run =>
          obtain rfl : e₁ = { e with connected := true, record := some run } := he
          cases hcheck : checkParameters limit { e with connected := true, record := some run } w₂
          with
          | none =>
            simp only [hcheck] at h
            cases h
          | some step =>
            obtain ⟨outcome, e₂, w₃⟩ := step
            have hchecks := checks_checkParameters hcheck
            simp only [hcheck] at h
            cases outcome <;> cases h
            · exact .stopped hc hconnect hrecording hw hchecks
            · exact .started hc hconnect hrecording hw hchecks

/-! ## Finishing -/

theorem finish_of_not_connected (hc : e.connected = false) (w : World) : e.finish w = (e, w) := by
  simp [finish, hc]

/-- An engine that is finished makes one call, and nothing after it. -/
theorem exists_finish (hc : e.connected = true) (w : World) : ∃ w₁, w.Quiet w₁ ∧
    e.finish w = ({ e with connected := false, scope := none }, w₁.close) := by
  simp only [finish, hc, Bool.not_true, Bool.false_eq_true, if_false]
  refine ⟨_, ?_, rfl⟩
  split <;> split
  · exact (w.quiet_settle _).trans (World.quiet_report ..)
  · exact w.quiet_report _
  · exact w.quiet_settle _
  · exact .refl ..

end Engine

/-! ## Around a run -/

namespace World

theorem quiet_board (w : World) (entry : Entry) : w.Quiet (w.board entry).2 := by
  have hon (w : World) : w.Quiet { w with onRuntime := true } :=
    ⟨[], ⟨⟨rfl, (List.append_nil _).symm⟩, .nil⟩, List.forall_mem_nil _⟩
  cases entry with
  | await => exact .refl ..
  | block =>
    simp only [board]
    split
    · have hfork : w.Quiet w.fork.2 := w.writes_fork.only rfl
      exact hfork.trans (hon _)
    · exact hon w

theorem adds_alight (w left : World) (request : RunRequest) :
    left.Adds [] (w.alight request left) := by
  simp only [alight]
  split <;> cases request.entry <;> exact ⟨rfl, (List.append_nil _).symm⟩

end World

end RunEngine
