import RunEngine.Proofs.Ending

/-!
# Invalid parameters never reach a body

When the parameters of a run do not fit the schema of its flow, the engine proposes that the run
failed, and from then on only looks at what was recorded for that. `Rejection` is the account of
such a run: the engine was refused something before it could propose, or it proposed that one
failure until the orchestrator decided about it.

**`runFlow_of_invalid`** says that every run with invalid parameters goes like this, whether it is
given or created, inside another one or not, whatever its caller is after and whatever the
orchestrator answers. What the body would do plays no part in it.
-/

namespace RunEngine

/-! ## The account of such a run -/

/-- A state that says that the parameters of a run are invalid. -/
def State.IsRejection (s : State) : Prop :=
  s.type = .failed ∧
    ∃ payload, s.data = some (.error payload) ∧ payload.kind = "ParameterValidationError"

/-- The state that is proposed for a run with invalid parameters. -/
def Flow.rejection (flow : Flow) (time : Timestamp) (invalid : ValidationError) : State :=
  flow.capture.failedState time { fault := .validation invalid } Engine.validationMessage

theorem Flow.isRejection_rejection (flow : Flow) (time : Timestamp) (invalid : ValidationError) :
    (flow.rejection time invalid).IsRejection := ⟨rfl, _, rfl, rfl⟩

/-- What the engine of a run with invalid parameters did, and what it concluded. The run is the one
that was given, or that was created. -/
inductive Rejection (state : State) (given : Option FlowRun) :
    List Event → Except EngineError State → Prop
  /-- The engine was refused something before it could propose. -/
  | refused {own : List Event} {error : EngineError} :
      (∀ e ∈ own, e.isClerical) → (∃ e ∈ own, e.refusal? = some error) →
      Rejection state given own (.error error)
  /-- The engine proposed `state` until it was decided about, and nothing else. -/
  | proposed {own : List Event} {run : FlowRun} {answers : List (Except ClientError Answer)}
      {conclusion : Except EngineError State} :
      (∀ e ∈ own, e.isInvocation = false) →
      (given = some run ∨ given = none ∧ ∃ request, .createFlowRun request (.ok run) ∈ own) →
      own.filterMap Event.proposal? = answers.map (fun answer => (run.id, state, answer)) →
      Answered answers conclusion →
      Rejection state given own conclusion

theorem filterMap_proposal?_of_isClerical {own : List Event} (h : ∀ e ∈ own, e.isClerical) :
    own.filterMap Event.proposal? = [] := by
  refine List.filterMap_eq_nil_iff.2 fun e he => ?_
  have hc := h e he
  cases e <;> first | rfl | cases hc

theorem isInvocation_of_isClerical {e : Event} (h : e.isClerical) : e.isInvocation = false :=
  Event.isInvocation_of_isOfBody (Event.isOfBody_of_isClerical h)

namespace Rejection

variable {state : State} {given : Option FlowRun} {own before after : List Event}
  {conclusion : Except EngineError State}

/-- Preparations before and after change nothing about a rejection. -/
theorem between (h : Rejection state given own conclusion) (hb : ∀ e ∈ before, e.isClerical)
    (ha : ∀ e ∈ after, e.isClerical) :
    Rejection state given (before ++ own ++ after) conclusion := by
  have hmem {e : Event} (he : e ∈ own) : e ∈ before ++ own ++ after := by simp [he]
  have hall {P : Event → Prop} (hP : ∀ e, e.isClerical → P e) (ho : ∀ e ∈ own, P e) :
      ∀ e ∈ before ++ own ++ after, P e := by
    intro e he
    simp only [List.mem_append, or_assoc] at he
    rcases he with he | he | he
    · exact hP e (hb e he)
    · exact ho e he
    · exact hP e (ha e he)
  cases h with
  | refused hc hr =>
    obtain ⟨e, he, hre⟩ := hr
    exact .refused (hall (fun _ h => h) hc) ⟨e, hmem he, hre⟩
  | @proposed run _ _ hi hrun hp hans =>
    refine .proposed (hall (fun _ => isInvocation_of_isClerical) hi) (hrun.imp_right ?_) ?_ hans
    · rintro ⟨hn, request, hc⟩
      exact ⟨hn, request, hmem hc⟩
    · simp only [List.filterMap_append, filterMap_proposal?_of_isClerical hb,
        filterMap_proposal?_of_isClerical ha, List.nil_append, List.append_nil, hp]

theorem isInvocation (h : Rejection state given own conclusion) :
    ∀ e ∈ own, e.isInvocation = false := by
  cases h with
  | refused hc => exact fun e he => isInvocation_of_isClerical (hc e he)
  | proposed hi => exact hi

end Rejection

/-- `w'` comes after `w`, and in between a run was rejected. -/
def World.Rejects (w : World) (state : State) (given : Option FlowRun)
    (conclusion : Except EngineError State) (w' : World) : Prop :=
  ∃ own, w.Passage own w' ∧ Rejection state given own conclusion

namespace World

variable {w w' w'' : World} {state : State} {given : Option FlowRun}
  {conclusion : Except EngineError State}

theorem Rejects.after (h : w'.Rejects state given conclusion w'')
    (hb : w.Leads (·.isClerical) w') : w.Rejects state given conclusion w'' := by
  obtain ⟨own, hp, h⟩ := h
  obtain ⟨before, hp', hb⟩ := hb
  refine ⟨before ++ own, hp'.trans hp, ?_⟩
  simpa using h.between hb (List.forall_mem_nil _)

theorem Rejects.before (h : w.Rejects state given conclusion w')
    (ha : w'.Leads (·.isClerical) w'') : w.Rejects state given conclusion w'' := by
  obtain ⟨own, hp, h⟩ := h
  obtain ⟨after, hp', ha⟩ := ha
  refine ⟨own ++ after, hp.trans hp', ?_⟩
  simpa using h.between (List.forall_mem_nil _) ha

/-- Preparations that came to an error are a rejection. -/
theorem Prepares.rejects {α : Type} {error : EngineError}
    (h : w.Prepares (.error error : Except EngineError α) w') :
    w.Rejects state given (.error error) w' := by
  obtain ⟨own, hp, hc, hr⟩ := h
  exact ⟨own, hp, .refused hc (hr error rfl)⟩

end World

/-! ## The engine of such a run -/

namespace Engine

variable {e : Engine} {w : World} {limit : Nat} {invalid : ValidationError}

/-- The record that an engine proposes for is the one it was given, or one it created. -/
theorem exists_ensureRecord (e : Engine) (w : World) :
    (∃ error w', e.ensureRecord w = (.error error, e, w')) ∨
      ∃ run w', e.ensureRecord w = (.ok run, { e with record := some run }, w') ∧
        (e.record = some run ∨
          e.record = none ∧ ∃ request, .createFlowRun request (.ok run) ∈ w.conduct w') := by
  simp only [ensureRecord]
  split
  · rename_i run hr
    refine .inr ⟨run, w, ?_, .inl hr⟩
    rw [← hr]
  · rename_i hr
    split
    · rename_i run left heq
      refine .inr ⟨run, left, rfl, .inr ⟨hr, ?_⟩⟩
      obtain ⟨own, hp, -, -⟩ := prepares_link e w
      simp only [create] at heq
      split at heq
      · cases heq
      · rename_i linked hlink
        rw [hlink] at hp
        split at heq <;> rename_i hcreate <;> cases heq
        have hc : linked.Passage [.createFlowRun _ (.ok run)] left :=
          hcreate ▸ World.passage_createFlowRun ..
        rw [(hp.trans hc).conduct]
        exact ⟨_, List.mem_append_right own (List.mem_singleton.2 rfl)⟩
    · exact .inl ⟨_, _, rfl⟩

/-- What checking the parameters leaves of an engine: one that was told a state is short-circuited
with it. -/
theorem exists_checkParameters {run : FlowRun} (hv : e.flow.validates)
    (hi : e.flow.schema.validate e.parameters = .error invalid) (ha : e.standing = .active)
    (hc : e.connected) (hr : e.record = some run) (hl : w.client.patience < limit) :
    ∃ answers conclusion e' w',
      e.checkParameters limit w = some (conclusion.map fun _ => (), e', w') ∧
      Answered answers conclusion ∧
      w.Passage (answers.map (.propose run.id (e.flow.rejection w.now invalid))) w' ∧
      ∀ s, conclusion = .ok s → e' = { e.apply s with standing := .shortCircuited s } := by
  obtain ⟨answers, conclusion, w', hs, hans, hp⟩ :=
    exists_setState (s := e.flow.rejection w.now invalid) ha hc hr hl
  have hx : e.handleException limit w { fault := .validation invalid } validationMessage
      e.flow.capture = some (conclusion, e.conclude conclusion, w') := hs
  simp only [checkParameters, hv, hi, hx, Bool.not_true, Bool.false_eq_true, if_false]
  cases conclusion with
  | ok s => exact ⟨answers, .ok s, _, w', rfl, hans, hp, fun _ h => by cases h; rfl⟩
  | error error => exact ⟨answers, .error error, _, w', rfl, hans, hp, by simp⟩

/-- An engine whose run was over before it began. -/
structure IsOver (e : Engine) (s : State) : Prop where
  standing : e.standing = .shortCircuited s
  state : e.state? = some s
  scope : e.scope.isSome

theorem exists_setup (hv : e.flow.validates)
    (hi : e.flow.schema.validate e.parameters = .error invalid) (ha : e.standing = .active)
    (hc : e.connected) (hl : w.client.patience < limit) :
    ∃ conclusion e' w', e.setup limit w = some (conclusion.map fun _ => (), e', w') ∧
      w.Rejects (e.flow.rejection w.now invalid) e.record conclusion w' ∧
      ∀ s, conclusion = .ok s → e'.IsOver s := by
  have hprep := prepares_ensureRecord e w
  rcases exists_ensureRecord e w with ⟨error, left, heq⟩ | ⟨run, left, heq, hrun⟩
  · rw [heq] at hprep
    exact ⟨.error error, e, left, by simp only [setup, heq]; rfl, hprep.rejects, by simp⟩
  · rw [heq] at hprep
    obtain ⟨before, hb, hclerical⟩ := hprep.leads
    obtain ⟨answers, conclusion, e', w', hcheck, hans, hp, he'⟩ :=
      exists_checkParameters (e := { e with record := some run }) (w := left) hv hi ha hc rfl
        (Nat.lt_of_le_of_lt hb.client.patience_le hl)
    rw [hb.now] at hp
    have hrejects : w.Rejects (e.flow.rejection w.now invalid) e.record conclusion w' := by
      rw [hb.conduct] at hrun
      refine ⟨_, hb.trans hp, .proposed ?_ (hrun.imp_right ?_) ?_ hans⟩
      · intro x hx
        rcases List.mem_append.1 hx with hx | hx
        · exact isInvocation_of_isClerical (hclerical x hx)
        · obtain ⟨answer, -, rfl⟩ := List.mem_map.1 hx
          rfl
      · rintro ⟨hn, request, hm⟩
        exact ⟨hn, request, List.mem_append_left _ hm⟩
      · rw [List.filterMap_append, filterMap_proposal?_of_isClerical hclerical, List.nil_append,
          List.filterMap_map]
        exact List.filterMap_eq_map (f := fun answer => (run.id, _, answer)) ▸ rfl
    cases conclusion with
    | error error =>
      exact ⟨.error error, e', w', by simp only [setup, heq, hcheck]; rfl, hrejects, by simp⟩
    | ok s =>
      obtain rfl := he' s rfl
      refine ⟨.ok s, _, w', by simp only [setup, heq, hcheck]; rfl, hrejects, ?_⟩
      rintro _ ⟨⟩
      exact ⟨rfl, rfl, rfl⟩

theorem exists_start (hv : e.flow.validates)
    (hi : e.flow.schema.validate e.parameters = .error invalid) (ha : e.standing = .active)
    (hc : e.connected = false) (hl : w.client.patience < limit) :
    ∃ conclusion e' w', e.start limit w = some (conclusion.map fun _ => (), e', w') ∧
      w.Rejects (e.flow.rejection w.now invalid) e.record conclusion w' ∧
      ∀ s, conclusion = .ok s → e'.IsOver s := by
  have hconnect := World.prepares_connect w
  cases hr : w.connect with
  | mk answer left =>
    rw [hr] at hconnect
    cases answer with
    | error error =>
      exact ⟨.error (.connection error), e, left, by simp [start, hc, hr]; rfl, hconnect.rejects,
        by simp⟩
    | ok =>
      obtain ⟨before, hb, hclerical⟩ := hconnect.leads
      obtain ⟨conclusion, e', w', hs, hrej, hover⟩ :=
        exists_setup (e := { e with connected := true }) (w := left) hv hi ha rfl
          (Nat.lt_of_le_of_lt hb.client.patience_le hl)
      rw [hb.now] at hrej
      replace hrej := hrej.after hconnect.leads
      cases conclusion with
      | error error =>
        exact ⟨.error error, { e' with connected := false }, w'.close, by
          simp only [start, hc, hr, hs]; rfl,
          hrej.before ((World.passage_close w').leads_one rfl), by simp⟩
      | ok s => exact ⟨.ok s, e', w', by simp only [start, hc, hr, hs]; rfl, hrej, hover⟩

theorem exists_execute (options : RunOptions) (hv : e.flow.validates)
    (hi : e.flow.schema.validate e.parameters = .error invalid) (ha : e.standing = .active)
    (hc : e.connected = false) (hl : w.client.patience < limit) :
    ∃ conclusion w',
      (∀ body, e.execute limit body options w = some (conclusion.bind options.resolution, w')) ∧
      w.Rejects (e.flow.rejection w.now invalid) e.record conclusion w' := by
  obtain ⟨conclusion, e', w', hs, hrej, hover⟩ := exists_start hv hi ha hc hl
  cases conclusion with
  | error error => exact ⟨.error error, w', fun body => by simp only [execute, hs]; rfl, hrej⟩
  | ok s =>
    have ho := hover s rfl
    refine ⟨.ok s, (e'.finish w').2, fun body => ?_, hrej.before (leads_finish e' w')⟩
    have hd : e'.drive limit body options w' = _ :=
      drive_of_shortCircuited ho.standing ho.state (Nat.zero_lt_of_lt hl)
    have hsome : e'.scope.isNone = false := by simpa using ho.scope
    simp only [execute, hs, Except.map, hsome, hd]
    rfl

end Engine

/-! ## Callers -/

namespace World

variable {w : World} {limit : Nat} {flow : Flow} {request : RunRequest} {invalid : ValidationError}

theorem exists_runFlow_rejects {client : Client} (hv : flow.validates)
    (hi : flow.schema.validate request.parameters = .error invalid)
    (hc : w.clientFor request.options = .ok client) (hl : client.patience < limit) :
    ∃ reply left conclusion, (∀ body, w.runFlow limit body flow request = some (reply, left)) ∧
      w.Rejects (flow.rejection w.now invalid) request.options.flowRun conclusion left ∧
      reply.outcome = conclusion.bind request.options.resolution := by
  have hboard := prepares_board { w with client } request.entry
  cases hb : { w with client }.board request.entry with
  | mk answer entered =>
    rw [hb] at hboard
    cases answer with
    | error error =>
      obtain ⟨own, hp, hrej⟩ : { w with client }.Rejects (flow.rejection w.now invalid)
        request.options.flowRun _ entered := hboard.rejects
      exact ⟨{ outcome := .error (.client error), client := entered.client }, _,
        .error (.client error), fun body => by simp only [runFlow, hc, hb],
        ⟨own, hp.alight hc, hrej⟩, rfl⟩
    | ok =>
      obtain ⟨before, hp, hclerical⟩ := hboard.leads
      obtain ⟨conclusion, left, hx, hrej⟩ := Engine.exists_execute (e := engineFor flow request)
        request.options hv hi rfl rfl (Nat.lt_of_le_of_lt hp.client.patience_le hl)
      rw [hp.now] at hrej
      obtain ⟨own, hp, hrej⟩ := hrej.after hboard.leads
      exact ⟨{ outcome := conclusion.bind request.options.resolution, client := left.client }, _,
        conclusion, fun body => by simp only [runFlow, hc, hb, hx body],
        ⟨own, hp.alight hc, hrej⟩, rfl⟩

/-- **Invalid parameters never reach a body.** No attempt is made, and all that is proposed is one
failure that names the invalid parameters. The caller gets what the state recorded for it resolves
to, whatever that state is, or else the error that kept one from being recorded. -/
theorem runFlow_of_invalid (hv : flow.validates)
    (hi : flow.schema.validate request.parameters = .error invalid)
    (hl : ∀ client, w.clientFor request.options = .ok client → client.patience < limit) :
    ∃ reply left conclusion,
      (∀ body, w.runFlow limit body flow request = some (reply, left)) ∧
      (∀ e ∈ w.conduct left, e.isInvocation = false) ∧
      (flow.rejection w.now invalid).IsRejection ∧
      (Rejection (flow.rejection w.now invalid) request.options.flowRun (w.conduct left)
          conclusion ∨
        w.conduct left = [] ∧ ∃ error, w.clientFor request.options = .error error ∧
          conclusion = .error error) ∧
      reply.outcome = conclusion.bind request.options.resolution := by
  have hstate := flow.isRejection_rejection w.now invalid
  cases hc : w.clientFor request.options with
  | error error =>
    have hnone : w.conduct w = [] := (Passage.refl w).conduct
    refine ⟨{ outcome := .error error, client := w.client }, w, .error error,
      fun body => by simp only [runFlow, hc], ?_, hstate, .inr ⟨hnone, error, rfl, rfl⟩, rfl⟩
    simp [hnone]
  | ok client =>
    obtain ⟨reply, left, conclusion, hrun, ⟨own, hp, hrej⟩, ho⟩ :=
      exists_runFlow_rejects hv hi hc (hl client hc)
    rw [← hp.conduct] at hrej
    exact ⟨reply, left, conclusion, hrun, hrej.isInvocation, hstate, .inl hrej, ho⟩

/-- A flow that takes one number. -/
def strict : Flow := { name := "strict", schema := Schema.addRequired {} "n" .int }

/-- A request without that number, whose orchestrator asks to wait and then has the run go on. -/
def incomplete : RunRequest :=
  { options := { client := some (.inMemory
      { answers := [some (.ok (.wait default "busy")),
          some (.ok (.reject (.running default) "go on"))] }) } }

theorem runFlow_of_invalid_incomplete : ∃ reply left,
    (∀ body, ({} : World).runFlow 3 body strict incomplete = some (reply, left)) ∧
      (∀ e ∈ ({} : World).conduct left, e.isInvocation = false) := by
  obtain ⟨reply, left, -, hrun, hnone, -⟩ := @runFlow_of_invalid {} 3 strict incomplete _ rfl rfl
    (fun client h => by cases h; decide)
  exact ⟨reply, left, hrun, hnone⟩

end World

end RunEngine
