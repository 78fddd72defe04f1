import RunEngine.Proofs.Driving
import RunEngine.Proofs.Protocol

/-!
# Where errors come from

An engine gives up at the first of its own calls that fails, and when it is told to stop. What its
caller gets is then that very error, and if there was no failure it gets none (`GivesUp`). Errors of
a body are no failures of the engine: they are reported, as are invalid parameters, and only the
state that is recorded for a report decides what becomes of them. The same goes for the errors of
runs that are nested in a body.

Each operation gives up in this way, which is read off the account of its events: answers to a
proposal, the two loops, and what comes before them. An engine that came to propose concludes from
the last answer, so that a caller gets the error of that answer, or what the state that was recorded
resolves to (`Concludes`). `Explains` says so of a whole run.

**`runFlow_explains`** lists the errors that a caller can get, each with what it takes.
-/

namespace RunEngine

/-! ## Failures -/

namespace Event

/-- The error that an engine gives up with when this happens: a call that failed, or an order to
stop. -/
def failure? : Event → Option EngineError
  | connect (.error error) => some (.connection error)
  | fork (.error error) => some (.client error)
  | createTaskRun _ (.error error) => some (.client error)
  | createFlowRun _ (.error error) => some (.client error)
  | propose _ _ (.error error) => some (.client error)
  | propose _ _ (.ok (.abort reason)) => some (.aborted reason)
  | _ => none

/-- An event that is a call, other than the one that connects the client, and failed. -/
inductive FailsWith (error : ClientError) : Event → Prop
  | fork : FailsWith error (fork (.error error))
  | createTaskRun (request : TaskRunRequest) :
      FailsWith error (createTaskRun request (.error error))
  | createFlowRun (request : FlowRunRequest) :
      FailsWith error (createFlowRun request (.error error))
  | propose (id : Uuid) (s : State) : FailsWith error (propose id s (.error error))

variable {e : Event} {error : ClientError} {reason : String}

theorem failure?_eq_connection :
    e.failure? = some (.connection error) ↔ e = connect (.error error) := by
  refine ⟨fun h => ?_, fun h => h ▸ rfl⟩
  unfold failure? at h
  split at h <;> cases h
  rfl

theorem failure?_eq_client : e.failure? = some (.client error) ↔ FailsWith error e := by
  refine ⟨fun h => ?_, fun h => by cases h <;> rfl⟩
  unfold failure? at h
  split at h <;> cases h
  · exact .fork
  · exact .createTaskRun _
  · exact .createFlowRun _
  · exact .propose _ _

theorem failure?_eq_aborted :
    e.failure? = some (.aborted reason) ↔ ∃ id s, e = propose id s (.ok (.abort reason)) := by
  refine ⟨fun h => ?_, fun ⟨_, _, h⟩ => h ▸ rfl⟩
  unfold failure? at h
  split at h <;> cases h
  exact ⟨_, _, rfl⟩

/-- The kinds of failures. -/
theorem failure?_cases {failure : EngineError} (h : e.failure? = some failure) :
    (∃ cause, failure = .connection cause) ∨ (∃ cause, failure = .client cause) ∨
      ∃ reason, failure = .aborted reason := by
  unfold failure? at h
  split at h <;> cases h
  · exact .inl ⟨_, rfl⟩
  · exact .inr (.inl ⟨_, rfl⟩)
  · exact .inr (.inl ⟨_, rfl⟩)
  · exact .inr (.inl ⟨_, rfl⟩)
  · exact .inr (.inl ⟨_, rfl⟩)
  · exact .inr (.inr ⟨_, rfl⟩)

theorem failure?_ne_run {runError : RunError} : e.failure? ≠ some (.run runError) := fun h => by
  rcases failure?_cases h with ⟨_, h⟩ | ⟨_, h⟩ | ⟨_, h⟩ <;> cases h

/-- An event that is neither a proposal nor a failure. -/
def IsPlain (e : Event) : Prop := e.proposal? = none ∧ e.failure? = none

end Event

/-- The failures among these events, in order. -/
def failures (own : List Event) : List EngineError := own.filterMap Event.failure?

/-- The error that an outcome is, if it is one. -/
def errorsOf {α : Type} : Except EngineError α → List EngineError
  | .ok _ => []
  | .error error => [error]

/-- There was no failure, or else one, which is the error that these events came to. -/
def GivesUp {α : Type} (own : List Event) (r : Except EngineError α) : Prop :=
  failures own = errorsOf r

variable {α β : Type} {own own' before after : List Event} {r : Except EngineError α}
  {id : Uuid} {s : State} {answers : List (Except ClientError Answer)}

theorem failures_append : failures (own ++ own') = failures own ++ failures own' :=
  List.filterMap_append

theorem failures_of_isPlain (h : ∀ e ∈ own, e.IsPlain) : failures own = [] :=
  List.filterMap_eq_nil_iff.2 fun e he => (h e he).2

theorem GivesUp.append {b : β} (h : GivesUp own (.ok b)) (h' : GivesUp own' r) :
    GivesUp (own ++ own') r := by
  have h : failures own = [] := h
  rw [GivesUp, failures_append, h, List.nil_append]
  exact h'

theorem GivesUp.map (h : GivesUp own r) (f : α → β) : GivesUp own (r.map f) := by
  cases r <;> exact h

/-- What happens before and after may be anything but a failure. -/
theorem GivesUp.between (h : GivesUp own r) (hb : ∀ e ∈ before, e.IsPlain)
    (ha : ∀ e ∈ after, e.IsPlain) : GivesUp (before ++ own ++ after) r := by
  rw [GivesUp, failures_append, failures_append, failures_of_isPlain hb, failures_of_isPlain ha,
    List.nil_append, List.append_nil]
  exact h

/-! ## Proposals -/

theorem Answered.givesUp {r : Except EngineError State} (h : Answered answers r) :
    GivesUp (answers.map (.propose id s)) r := by
  induction h with
  | accepted | rejected | aborted | failed => rfl
  | again delay reason _ ih => exact ih

theorem Admission.givesUp {time : Timestamp} {conclusion : Except EngineError State}
    (h : Admission time id own conclusion) : GivesUp own conclusion := by
  induction h with
  | stopped hans | admitted hans => exact hans.givesUp
  | held hans _ _ ih => exact hans.givesUp.append ih

/-- That a body failed is not a failure of the engine. -/
theorem Course.Setting.givesUp_attempt {c : Course.Setting} {outcome : Except Failure Json}
    {r : Except EngineError State} (h : Answered answers r) :
    GivesUp (c.attempt outcome answers) r :=
  show GivesUp (answers.map (.propose c.id (c.flow.report c.time outcome))) r from h.givesUp

theorem Attempts.givesUp {c : Course.Setting}
    {conclusion : Except EngineError (Option Json × State)} (h : Attempts c s own conclusion) :
    GivesUp own conclusion := by
  induction h with
  | ended => rfl
  | stopped _ hans | settled _ _ hans => exact Course.Setting.givesUp_attempt hans
  | again _ _ hans _ ih => exact (Course.Setting.givesUp_attempt hans).append ih

theorem Course.givesUp {c : Course.Setting} {conclusion : Except EngineError (Option Json × State)}
    (h : Course c own conclusion) : GivesUp own conclusion := by
  cases h with
  | stopped hadm => exact hadm.givesUp
  | admitted hadm hatt => exact hadm.givesUp.append hatt.givesUp

/-- The engine came to propose, and the last answer to a proposal says what these events came
to. -/
structure Concludes (own : List Event) (r : Except EngineError State) : Prop where
  givesUp : GivesUp own r
  last : ∃ id proposed answer, lastProposal own = some (id, proposed, answer) ∧
    conclusion? answer = some r

theorem lastProposal_of_proposal? (h : ∀ e ∈ own, e.proposal? = none) :
    lastProposal own = none := by
  rw [lastProposal, List.filterMap_eq_nil_iff.2 h, List.getLast?_nil]

theorem Concludes.between {r : Except EngineError State} (h : Concludes own r)
    (hb : ∀ e ∈ before, e.IsPlain) (ha : ∀ e ∈ after, e.IsPlain) :
    Concludes (before ++ own ++ after) r := by
  obtain ⟨id, proposed, answer, hlast, hanswer⟩ := h.last
  refine ⟨h.givesUp.between hb ha, id, proposed, answer, ?_, hanswer⟩
  rw [← hlast]
  simp only [lastProposal, List.filterMap_append,
    List.filterMap_eq_nil_iff.2 fun e he => (hb e he).1,
    List.filterMap_eq_nil_iff.2 fun e he => (ha e he).1, List.nil_append, List.append_nil]

theorem Answered.concludes {r : Except EngineError State} (h : Answered answers r) (id : Uuid)
    (s : State) : Concludes (answers.map (.propose id s)) r := by
  refine ⟨h.givesUp, ?_⟩
  obtain ⟨earlier, answer, rfl, hanswer⟩ := h.exists_last
  refine ⟨id, s, answer, ?_, hanswer⟩
  rw [List.map_append]
  exact lastProposal_concat

theorem Course.concludes {c : Course.Setting}
    {conclusion : Except EngineError (Option Json × State)} (h : Course c own conclusion) :
    Concludes own (conclusion.map (·.2)) := by
  obtain ⟨earlier, proposed, answer, rfl, hanswer, -⟩ := h.exists_last
  exact ⟨h.givesUp.map _, c.id, proposed, answer, lastProposal_concat, hanswer⟩

/-- An engine that came to propose may be refused a proposal or told to stop. Only the state that
the run is left in makes any other error. -/
theorem Concludes.error_cases {options : RunOptions} {error : EngineError}
    {conclusion : Except EngineError (Option Json × State)}
    (h : Concludes own (conclusion.map (·.2))) (he : options.concluded conclusion = .error error) :
    (∃ cause, error = .client cause) ∨ (∃ reason, error = .aborted reason) ∨
      ∃ s, conclusion = .ok (none, s) ∧ options.resolution s = .error error := by
  rcases conclusion with error' | ⟨- | value, s⟩
  · cases he
    obtain ⟨-, -, answer, -, hanswer⟩ := h.last
    unfold conclusion? at hanswer
    split at hanswer <;> cases hanswer
    · exact .inr (.inl ⟨_, rfl⟩)
    · exact .inl ⟨_, rfl⟩
  · exact .inr (.inr ⟨s, rfl, he⟩)
  · cases he

theorem Concludes.ne_connection {options : RunOptions} {cause : ClientError}
    {conclusion : Except EngineError (Option Json × State)}
    (h : Concludes own (conclusion.map (·.2))) :
    options.concluded conclusion ≠ .error (.connection cause) := by
  intro he
  rcases h.error_cases he with ⟨_, he⟩ | ⟨_, he⟩ | ⟨s, -, he⟩
  · cases he
  · cases he
  · obtain ⟨-, _, he, -⟩ := RunOptions.exists_run_of_resolution he
    cases he

/-! ## Whole runs -/

/-- What a caller gets, and the events of the engine that it comes from. -/
inductive Explains (options : RunOptions) : List Event → Except EngineError RunOutput → Prop
  /-- A call failed before the engine could propose. -/
  | unproposed {own : List Event} {error : EngineError} : (∀ e ∈ own, e.proposal? = none) →
      GivesUp own (.error error : Except EngineError Unit) → Explains options own (.error error)
  | proposed {own : List Event} {conclusion : Except EngineError (Option Json × State)} :
      Concludes own (conclusion.map (·.2)) → Explains options own (options.concluded conclusion)

variable {options : RunOptions} {outcome : Except EngineError RunOutput}

theorem Explains.between (h : Explains options own outcome) (hb : ∀ e ∈ before, e.IsPlain)
    (ha : ∀ e ∈ after, e.IsPlain) : Explains options (before ++ own ++ after) outcome := by
  cases h with
  | unproposed hnone hgives =>
    refine .unproposed (List.forall_mem_append.2 ⟨List.forall_mem_append.2 ⟨?_, hnone⟩, ?_⟩)
      (hgives.between hb ha)
    · exact fun e he => (hb e he).1
    · exact fun e he => (ha e he).1
  | proposed hc => exact .proposed (hc.between hb ha)

/-- What was written is what the engine at this depth did. -/
theorem World.Writes.passage {w w' : World} {P : Event → Prop} (h : w.Writes own w')
    (hl : w.Leads P w') : w.Passage own w' := by
  obtain ⟨own', hp, -⟩ := hl
  rwa [← h.conduct, hp.conduct]

namespace Engine

open World

variable {e e' : Engine} {w w' : World} {limit : Nat} {error : EngineError} {run : FlowRun}

/-! ### Starting -/

theorem Recording.givesUp {nested : Bool} {given : Option FlowRun}
    {outcome : Except EngineError FlowRun} (h : Recording nested given own outcome) :
    GivesUp own outcome := by
  cases h with
  | given | unlinked => rfl
  | @alone _ answer | @linked _ _ _ answer => cases answer <;> rfl

/-- To be refused a record is to be refused a call. -/
theorem Recording.exists_client {nested : Bool} {given : Option FlowRun}
    (h : Recording nested given own (.error error)) : ∃ cause, error = .client cause := by
  generalize hr : Except.error error = outcome at h
  cases h with
  | given => cases hr
  | unlinked =>
    cases hr
    exact ⟨_, rfl⟩
  | @alone _ answer | @linked _ _ _ answer =>
    cases answer <;> cases hr
    exact ⟨_, rfl⟩

theorem Recording.isPlain {nested : Bool} {given : Option FlowRun}
    (h : Recording nested given own (.ok run)) : ∀ e ∈ own, e.IsPlain :=
  fun e he => ⟨h.proposal? e he, List.filterMap_eq_nil_iff.1 h.givesUp e he⟩

/-- A proposal of an engine that has a record comes to what its answers say. -/
theorem Proposes.exists_answered {r : Except EngineError State} (h : e.Proposes w s r e' w')
    (ha : e.standing = .active) (hc : e.connected) (hr : e.record = some run) :
    ∃ own, Concludes own r ∧ w.Writes own w' ∧ e' = e.conclude r := by
  cases h with
  | shortCircuited hs => cases hs.symm.trans ha
  | notStarted _ hn => cases hn.symm.trans hc
  | unrecorded _ _ hn => cases hn.symm.trans hr
  | answered _ _ _ hans hw => exact ⟨_, hans.concludes _ s, hw, rfl⟩

/-- A client that was connected, and what the engine did to have a record. -/
theorem isPlain_opening {nested : Bool} {given : Option FlowRun}
    (h : Recording nested given own (.ok run)) :
    ∀ e ∈ Event.connect (.ok ()) :: own, e.IsPlain :=
  List.forall_mem_cons.2 ⟨⟨rfl, rfl⟩, h.isPlain⟩

/-- **An engine that was not started gave up at the first failure.** -/
theorem exists_explains_start (options : RunOptions) (ha : e.standing = .active)
    (h : e.start limit w = some (.error error, e', w')) :
    ∃ own, w.Passage own w' ∧ Explains options own (.error error) := by
  have hopen : ∀ e ∈ [Event.connect (.ok ())], e.IsPlain := List.forall_mem_singleton.2 ⟨rfl, rfl⟩
  have hclose : ∀ e ∈ [Event.close], e.IsPlain := List.forall_mem_singleton.2 ⟨rfl, rfl⟩
  cases starts_start h with
  | refused _ hw =>
    exact ⟨_, hw.passage (leads_start h), .unproposed (by simp [Event.proposal?]) rfl⟩
  | unrecorded _ hconnect hrecording hw =>
    have hexplains : Explains options _ _ := .unproposed hrecording.proposal? hrecording.givesUp
    exact ⟨_, ((hconnect.trans hw).trans (writes_close _)).passage (leads_start h),
      hexplains.between hopen hclose⟩
  | stopped _ hconnect hrecording hw hchecks =>
    cases hchecks with
    | stopped hp =>
      obtain ⟨own, hconcludes, hw', -⟩ := hp.exists_answered ha rfl rfl
      have hexplains := @Explains.proposed options own (.error error) hconcludes
      exact ⟨_, (((hconnect.trans hw).trans hw').trans (writes_close _)).passage (leads_start h),
        hexplains.between (isPlain_opening hrecording) hclose⟩

/-- **An engine that was started met no failure.** It drives its run, or its parameters are invalid
and the run is over in the state that was recorded for that. -/
theorem exists_opening (ha : e.standing = .active) (hc : e.connected = false)
    (h : e.start limit w = some (.ok (), e', w')) : ∃ own, w.Passage own w' ∧
      ((∀ event ∈ own, event.IsPlain) ∧ (∃ parameters id, e'.Runs e.flow parameters id) ∨
        ∃ s, e'.IsOver s ∧ Concludes own (.ok s)) := by
  cases starts_start h with
  | already hconnected => cases hconnected.symm.trans hc
  | @started recording run _ _ _ _ _ hconnect hrecording hw hchecks =>
    have hopening := hconnect.trans hw
    cases hchecks with
    | settled =>
      exact ⟨_, hopening.passage (leads_start h), .inl ⟨isPlain_opening hrecording, _, run.id,
        ⟨rfl, ha, ⟨run, rfl, rfl⟩, rfl⟩, rfl, rfl⟩⟩
    | @rejected s held _ _ hp =>
      obtain ⟨own, hconcludes, hw', rfl⟩ := hp.exists_answered ha rfl rfl
      have hall := hconcludes.between (isPlain_opening hrecording) (List.forall_mem_nil _)
      rw [List.append_nil] at hall
      exact ⟨_, (hopening.trans hw').passage (leads_start h), .inr ⟨held, ⟨rfl, rfl, rfl⟩, hall⟩⟩

/-- An engine that was started has a scope. -/
theorem isSome_scope_start (ha : e.standing = .active) (hc : e.connected = false)
    (h : e.start limit w = some (.ok (), e', w')) : e'.scope.isSome := by
  obtain ⟨-, -, ⟨-, _, _, hruns⟩ | ⟨s, hover, -⟩⟩ := exists_opening ha hc h
  · exact hruns.drives.scope
  · exact hover.scope

/-! ### The whole run -/

theorem isPlain_of_isOfFinish {event : Event} (h : event.isOfFinish) : event.IsPlain := by
  cases event <;> first | exact ⟨rfl, rfl⟩ | cases h

/-- A run was not started, or else the engine came to propose. -/
theorem execute_cases {body : Invoke} (hb : body.KeepsFrame) (ha : e.standing = .active)
    (hc : e.connected = false) (h : e.execute limit body options w = some (outcome, w')) :
    (∃ error e', e.start limit w = some (.error error, e', w') ∧ outcome = .error error) ∨
      ∃ own conclusion, w.Passage own w' ∧ Concludes own (conclusion.map (·.2)) ∧
        outcome = options.concluded conclusion := by
  simp only [execute] at h
  split at h
  · cases h
  · rename_i hs
    cases h
    exact .inl ⟨_, _, hs, rfl⟩
  · rename_i e₁ w₁ hs
    obtain ⟨opening, hp, hopening⟩ := exists_opening ha hc hs
    have hscope : e₁.scope.isNone = false := by simpa using isSome_scope_start ha hc hs
    simp only [hscope, Bool.false_eq_true, if_false] at h
    split at h
    · cases h
    · rename_i e₂ w₂ hd
      cases h
      obtain ⟨closing, hp'', hclosing⟩ := leads_isOfFinish e₂ w₂
      have hplain : ∀ event ∈ closing, event.IsPlain := fun event he =>
        isPlain_of_isOfFinish (hclosing event he)
      refine .inr ?_
      rcases hopening with ⟨hopen, _, _, hruns⟩ | ⟨s, hover, hconcludes⟩
      · obtain ⟨own, conclusion, hp', hcourse, rfl⟩ := hruns.drive hb hd
        exact ⟨_, conclusion, (hp.trans hp').trans hp'',
          hcourse.concludes.between hopen hplain, rfl⟩
      · rw [drive_of_shortCircuited hover.standing hover.state (pos_of_drive hd)] at hd
        cases hd
        have hall : Concludes ([] ++ opening ++ closing) (.ok s) :=
          hconcludes.between (List.forall_mem_nil _) hplain
        exact ⟨_, .ok (none, s), hp.trans hp'', hall, rfl⟩

theorem exists_explains_execute {body : Invoke} (hb : body.KeepsFrame) (ha : e.standing = .active)
    (hc : e.connected = false) (h : e.execute limit body options w = some (outcome, w')) :
    ∃ own, w.Passage own w' ∧ Explains options own outcome := by
  rcases execute_cases hb ha hc h with ⟨_, _, hs, rfl⟩ | ⟨own, conclusion, hp, hconcludes, rfl⟩
  · exact exists_explains_start options ha hs
  · exact ⟨own, hp, .proposed hconcludes⟩

/-- An engine whose client does not connect makes no other call. -/
theorem writes_of_connection {body : Invoke} {error : ClientError} (hb : body.KeepsFrame)
    (ha : e.standing = .active) (hc : e.connected = false)
    (h : e.execute limit body options w = some (.error (.connection error), w')) :
    w.Writes [.connect (.error error)] w' := by
  rcases execute_cases hb ha hc h with ⟨_, _, hs, he⟩ | ⟨own, conclusion, -, hconcludes, he⟩
  · cases he
    cases starts_start hs with
    | refused _ hw => exact hw
    | unrecorded _ _ hrecording =>
      obtain ⟨_, he⟩ := hrecording.exists_client
      cases he
    | stopped _ _ _ _ hchecks =>
      cases hchecks with
      | stopped hp =>
        obtain ⟨own, hconcludes, -⟩ := hp.exists_answered ha rfl rfl
        have hne : options.concluded (.error (.connection error)) ≠ .error (.connection error) :=
          hconcludes.ne_connection
        exact absurd rfl hne
  · exact absurd he.symm hconcludes.ne_connection

end Engine

/-! ## Requests -/

namespace World

variable {w left : World} {limit : Nat} {flow : Flow} {request : RunRequest} {reply : RunReply}
  {client : Client}

/-- A caller that blocks may need a fork of the client, and that is all it does before the engine is
started. -/
theorem exists_passage_board (w : World) (entry : Entry) : ∃ own, w.Passage own (w.board entry).2 ∧
    (∀ e ∈ own, e.proposal? = none) ∧ GivesUp own ((w.board entry).1.mapError .client) := by
  have hon (w : World) : w.Passage [] { w with onRuntime := true } :=
    passage_silent rfl (.refl ..) rfl rfl rfl
  cases entry with
  | await => exact ⟨[], .refl _, List.forall_mem_nil _, rfl⟩
  | block =>
    by_cases hr : w.onRuntime
    · simp only [board, hr, if_true]
      refine ⟨_, w.passage_fork.trans (hon _), by simp [Event.proposal?], ?_⟩
      cases w.fork.1 <;> rfl
    · simp only [board, hr]
      exact ⟨[], hon w, List.forall_mem_nil _, rfl⟩

theorem exists_explains_runFlow {body : Invoke} (hb : body.KeepsFrame)
    (hc : w.clientFor request.options = .ok client)
    (h : w.runFlow limit body flow request = some (reply, left)) :
    Explains request.options (w.conduct left) reply.outcome := by
  obtain ⟨before, hp, hnone, hgives⟩ := exists_passage_board { w with client } request.entry
  simp only [runFlow, hc] at h
  split at h <;> rename_i heq <;> rw [heq] at hp hgives
  · cases h
    rw [(hp.alight hc).conduct]
    exact .unproposed hnone hgives
  · split at h
    · cases h
    · rename_i hx
      cases h
      have hplain : ∀ e ∈ before, e.IsPlain := fun e he =>
        ⟨hnone e he, List.filterMap_eq_nil_iff.1 hgives e he⟩
      obtain ⟨own, hp', hexplains⟩ := Engine.exists_explains_execute hb rfl rfl hx
      have hall := hexplains.between hplain (List.forall_mem_nil _)
      rw [List.append_nil] at hall
      rwa [((hp.trans hp').alight hc).conduct]

/-- Where the client does not connect, nobody calls anything else. -/
theorem calls_of_connection {body : Invoke} {error : ClientError} (hb : body.KeepsFrame)
    (hc : w.clientFor request.options = .ok client)
    (h : w.runFlow limit body flow request = some (reply, left))
    (he : reply.outcome = .error (.connection error)) :
    w.calls left = [(w.scopes.length, .connect (.error error))] := by
  have hboard := quiet_board { w with client } request.entry
  simp only [runFlow, hc] at h
  split at h <;> rename_i heq <;> rw [heq] at hboard
  · cases h
    cases he
  · split at h
    · cases h
    · rename_i hx
      cases h
      cases he
      have hprepared := hboard.carries w.scopes.length
      have hconnects := (Engine.writes_of_connection hb rfl rfl hx).carries w.scopes.length
      rw [hprepared.depth] at hconnects
      exact ((hprepared.trans hconnects).before (w.adds_alight _ request)).calls

end World

/-! ## What it takes -/

namespace Explains

variable {error : EngineError} {reason : String}

/-- **There is one failure at most, and that is what the caller gets.** The only other error is that
of the state in which the run was left. -/
theorem mem_failures (h : Explains options own outcome) :
    error ∈ failures own ↔ outcome = .error error ∧ ∀ runError, error ≠ .run runError := by
  have hrun (hm : error ∈ failures own) : ∀ runError, error ≠ .run runError := by
    rintro runError rfl
    obtain ⟨e, -, he⟩ := List.mem_filterMap.1 hm
    exact Event.failure?_ne_run he
  refine ⟨fun hm => ⟨?_, hrun hm⟩, fun ⟨ho, hnot⟩ => ?_⟩
  · cases h with
    | unproposed _ hgives =>
      rw [hgives] at hm
      rw [List.mem_singleton.1 hm]
    | @proposed conclusion hc =>
      rw [hc.givesUp] at hm
      cases conclusion with
      | ok => cases hm
      | error =>
        rw [List.mem_singleton.1 hm]
        rfl
  · cases h with
    | unproposed _ hgives =>
      cases ho
      rw [hgives]
      exact List.mem_singleton_self _
    | @proposed conclusion hc =>
      rw [hc.givesUp]
      rcases conclusion with error' | ⟨- | value, s⟩
      · cases ho
        exact List.mem_singleton_self _
      · obtain ⟨-, runError, he, -⟩ := RunOptions.exists_run_of_resolution (s := s) ho
        exact absurd he (hnot runError)
      · cases ho

/-- To be told to stop is the last that an engine is told. -/
theorem eq_aborted (h : Explains options own outcome) : outcome = .error (.aborted reason) ↔
    ∃ id s, lastProposal own = some (id, s, .ok (.abort reason)) := by
  cases h with
  | unproposed hnone hgives =>
    rw [lastProposal_of_proposal? hnone]
    refine ⟨fun ho => ?_, by simp⟩
    cases ho
    have hm : EngineError.aborted reason ∈ failures own := by
      rw [hgives]
      exact List.mem_singleton_self _
    obtain ⟨e, he, hf⟩ := List.mem_filterMap.1 hm
    obtain ⟨id, s, rfl⟩ := Event.failure?_eq_aborted.1 hf
    cases hnone _ he
  | @proposed conclusion hc =>
    obtain ⟨id, proposed, answer, hlast, hanswer⟩ := hc.last
    rw [hlast]
    refine ⟨fun ho => ?_, ?_⟩
    · rcases conclusion with error | ⟨- | value, s⟩
      · cases ho
        refine ⟨id, proposed, ?_⟩
        unfold conclusion? at hanswer
        split at hanswer <;> cases hanswer
        rfl
      · obtain ⟨-, _, he, -⟩ := RunOptions.exists_run_of_resolution (s := s) ho
        cases he
      · cases ho
    · rintro ⟨_, _, ⟨⟩⟩
      cases conclusion <;> cases hanswer
      rfl

/-- The error of the state that a run was left in is that of the one recorded last. -/
theorem exists_recorded {runError : RunError} (h : Explains options own outcome)
    (ho : outcome = .error (.run runError)) : options.returnType = .result ∧
      ∃ id proposed answer s, lastProposal own = some (id, proposed, .ok answer) ∧
        answer.recorded? = some s ∧ s.resolve options.raiseOnFailure = .error runError := by
  cases h with
  | unproposed hnone hgives =>
    cases ho
    have hm : EngineError.run runError ∈ failures own := by
      rw [hgives]
      exact List.mem_singleton_self _
    obtain ⟨e, -, he⟩ := List.mem_filterMap.1 hm
    exact absurd he Event.failure?_ne_run
  | @proposed conclusion hc =>
    rcases hc.error_cases ho with ⟨_, he⟩ | ⟨_, he⟩ | ⟨s, rfl, he⟩
    · cases he
    · cases he
    · obtain ⟨hr, _, he, hs⟩ := RunOptions.exists_run_of_resolution he
      cases he
      obtain ⟨id, proposed, answer, hlast, hanswer⟩ := hc.last
      obtain ⟨answer, rfl, hrecorded⟩ := conclusion?_eq_ok.1 hanswer
      exact ⟨hr, id, proposed, answer, s, hlast, hrecorded, hs⟩

theorem error_cases (h : Explains options own outcome) (ho : outcome = .error error) :
    (∃ cause, error = .connection cause) ∨ (∃ cause, error = .client cause) ∨
      (∃ reason, error = .aborted reason) ∨ ∃ runError, error = .run runError := by
  by_cases hrun : ∃ runError, error = .run runError
  · exact .inr (.inr (.inr hrun))
  · have hm : error ∈ failures own :=
      h.mem_failures.2 ⟨ho, fun runError he => hrun ⟨runError, he⟩⟩
    obtain ⟨e, -, he⟩ := List.mem_filterMap.1 hm
    exact (Event.failure?_cases he).imp_right (Or.imp_right .inl)

end Explains

namespace World

variable {w left : World} {limit : Nat} {flow : Flow} {request : RunRequest} {reply : RunReply}
  {client : Client} {body : Body}

/-- **The errors that a caller can get, and what they take.** An error of the client is one of a
call that this run's own engine made, and is handed out exactly if there was such a call; if the
client did not connect, that was the only call. To be told to stop is the last that an engine is
told. The state that was recorded last is an error only for a caller that is after the result and
has failures raised, and if the run failed, crashed or is not over. There are no other errors. -/
theorem runFlow_explains (hc : w.clientFor request.options = .ok client)
    (h : w.runFlow limit (body.invoke limit) flow request = some (reply, left)) :
    (∀ cause, reply.outcome = .error (.connection cause) ↔
      .connect (.error cause) ∈ w.conduct left) ∧
    (∀ cause, reply.outcome = .error (.connection cause) →
      w.calls left = [(w.scopes.length, .connect (.error cause))]) ∧
    (∀ cause, reply.outcome = .error (.client cause) ↔
      ∃ e ∈ w.conduct left, e.FailsWith cause) ∧
    (∀ reason, reply.outcome = .error (.aborted reason) ↔
      ∃ id s, lastProposal (w.conduct left) = some (id, s, .ok (.abort reason))) ∧
    (∀ error, reply.outcome = .error (.run error) →
      request.options.returnType = .result ∧ request.options.raiseOnFailure ∧
      ∃ id proposed answer s, lastProposal (w.conduct left) = some (id, proposed, .ok answer) ∧
        answer.recorded? = some s ∧
        ((∃ message cause, error = .failed s.type message cause) ∧
            (s.type = .failed ∨ s.type = .crashed) ∨
          error = .unfinished s.type ∧ s.isFinal = false)) ∧
    ∀ error, reply.outcome = .error error → (∃ cause, error = .connection cause) ∨
      (∃ cause, error = .client cause) ∨ (∃ reason, error = .aborted reason) ∨
      ∃ runError, error = .run runError := by
  have hb := body.keepsFrame_invoke limit
  have hexplains := exists_explains_runFlow hb hc h
  have hfailure (error : EngineError) (hnot : ∀ runError, error ≠ .run runError) :
      reply.outcome = .error error ↔ ∃ e ∈ w.conduct left, e.failure? = some error := by
    rw [← List.mem_filterMap]
    exact ⟨fun ho => hexplains.mem_failures.2 ⟨ho, hnot⟩,
      fun hm => (hexplains.mem_failures.1 hm).1⟩
  refine ⟨fun cause => ?_, fun cause => calls_of_connection hb hc h, fun cause => ?_,
    fun reason => hexplains.eq_aborted, fun error ho => ?_, fun error => hexplains.error_cases⟩
  · simp only [hfailure (.connection cause) (by simp), Event.failure?_eq_connection,
      exists_eq_right]
  · simp only [hfailure (.client cause) (by simp), Event.failure?_eq_client]
  · obtain ⟨hr, id, proposed, answer, s, hlast, hrecorded, hs⟩ := hexplains.exists_recorded ho
    obtain ⟨hraise, hkind⟩ := State.resolve_eq_error hs
    exact ⟨hr, hraise, id, proposed, answer, s, hlast, hrecorded, hkind⟩

/-- A body that fails with the error of a nested run, whose client does not connect. -/
def passingOn : Body := fun _ _ =>
  .runFlow { name := "cut off" } (fun _ _ => .done (.ok .null))
    { options := { client := some (.inMemory
        { connects := [some (.error (.unreachable "nobody there"))] }) } }
    fun reply => .done <| match reply.outcome with
      | .ok _ => .ok .null
      | .error error => .error { fault := .engine error }

/-- A request whose orchestrator has the run stop when it reports its first attempt. -/
def stoppedOnce : RunRequest :=
  { options := { client := some (.inMemory { answers := [none, some (.ok (.abort "enough"))] }) } }

theorem runFlow_explains_passingOn : ∃ reply left,
    ({} : World).runFlow 2 (passingOn.invoke 2) { name := "passing on" } stoppedOnce =
      some (reply, left) ∧
    (∃ id s, lastProposal (({} : World).conduct left) = some (id, s, .ok (.abort "enough"))) ∧
    .connect (.error (.unreachable "nobody there")) ∉ ({} : World).conduct left := by
  obtain ⟨hconnection, -, -, hlast, -⟩ := @runFlow_explains {} _ 2 { name := "passing on" }
    stoppedOnce _ _ passingOn rfl rfl
  refine ⟨_, _, rfl, (hlast "enough").1 rfl, fun hm => ?_⟩
  cases (hconnection _).2 hm

end World

end RunEngine
