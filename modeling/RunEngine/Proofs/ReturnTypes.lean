import RunEngine.Proofs.Ending

/-!
# What the two return types report

A caller asks for the final state of a run or for what it resolves to. The two runs are the same
step for step up to the first attempt that succeeds. There a run for the result hands out the value
at once, and a run for the state goes on from whatever was recorded for the report of that value.

So the two agree as long as the orchestrator records what is reported, or no attempt succeeds. When
it records something else, they need not (**`runFlow_returning`**).
-/

namespace RunEngine

/-- The options of a caller that is after one thing or the other. -/
def RunOptions.returning (options : RunOptions) (returnType : ReturnType) : RunOptions :=
  { options with returnType }

/-- The request of such a caller. -/
def RunRequest.returning (request : RunRequest) (returnType : ReturnType) : RunRequest :=
  { request with options := request.options.returning returnType }

/-- The value of the first attempt that succeeded. -/
def firstValue (own : List Event) : Option Json := own.findSome? Event.value?

/-- The value was reported, and `recorded` was recorded for it. -/
def Reported (time : Timestamp) (value : Json) (recorded : State) (own : List Event) : Prop :=
  ∃ id answer, .propose id (.completedWith time value) (.ok answer) ∈ own ∧
    answer.recorded? = some recorded

/-- Whatever was recorded for a report that a run is complete was the report itself. -/
def RecordsCompletion (own : List Event) : Prop :=
  ∀ id s answer recorded, .propose id s (.ok answer) ∈ own → s.type = .completed →
    answer.recorded? = some recorded → recorded = s

theorem firstValue_append (own own' : List Event) :
    firstValue (own ++ own') = (firstValue own).or (firstValue own') := List.findSome?_append

theorem firstValue_of_isApart {own : List Event} (h : ∀ e ∈ own, e.IsApart) :
    firstValue own = none :=
  List.findSome?_eq_none_iff.2 fun e he => Event.value?_of_isOfBody (h e he)

namespace Engine

variable {e e' : Engine} {w w' left : World} {limit : Nat} {id : Uuid} {s recorded : State}
  {value : Option Json} {body : Invoke} {options : RunOptions}

/-! ## Proposals -/

/-- The state that a proposal ends with is the one that its last answer says was recorded. -/
theorem recorded_of_proposeUntilAnswered
    (h : proposeUntilAnswered id s limit w = some (.ok recorded, w')) :
    ∃ own answer, w.Passage own w' ∧ (∀ x ∈ own, x.IsApart) ∧
      .propose id s (.ok answer) ∈ own ∧ answer.recorded? = some recorded := by
  obtain ⟨answers, hans, hp⟩ := answered_of_proposeUntilAnswered h
  obtain ⟨earlier, last, rfl, hlast⟩ := hans.exists_last
  obtain ⟨answer, rfl, hr⟩ := conclusion?_eq_ok.1 hlast
  refine ⟨_, answer, hp, ?_, by simp, hr⟩
  intro x hx
  obtain ⟨_, -, rfl⟩ := List.mem_map.1 hx
  rfl

theorem recorded_of_setState (ha : e.standing = .active)
    (h : e.setState limit w s = some (.ok recorded, e', w')) : e'.state? = some recorded ∧
      ∃ own id answer, w.Passage own w' ∧ (∀ x ∈ own, x.IsApart) ∧
        .propose id s (.ok answer) ∈ own ∧ answer.recorded? = some recorded := by
  simp only [setState, ha] at h
  split at h
  · cases h
  · split at h
    · cases h
    · rename_i run hr
      split at h
      · cases h
      · rename_i hp
        cases h
        obtain ⟨own, answer, hpass⟩ := recorded_of_proposeUntilAnswered hp
        exact ⟨state?_apply hr, own, run.id, answer, hpass⟩
      · cases h

/-! ## Attempts -/

theorem standing_of_invoke {outcome : Except Failure Json}
    (h : e.invoke body w = some (outcome, e', w')) : e'.standing = e.standing := by
  obtain ⟨_, _, -, -, rfl, -⟩ := exists_inside_of_invoke h
  rfl

/-- An attempt that succeeds reports its value, and the engine has what was recorded for that. -/
theorem reported_of_attempt (hb : body.KeepsFrame) (ha : e.standing = .active)
    (h : e.attempt body limit w = some (.ok value, e', w')) :
    ∃ own, w.Passage own w' ∧ firstValue own = value ∧
      ∀ v, value = some v → ∃ recorded, Reported w.now v recorded own ∧
        e'.state? = some recorded := by
  simp only [attempt] at h
  split at h
  · cases h
  · rename_i v e₁ w₁ hi
    have hp := passage_invoke hb hi
    split at h <;> cases h
    rename_i hx
    simp only [handleSuccess] at hx
    split at hx <;> cases hx
    rename_i recorded hset
    obtain ⟨hstate, own, id, answer, hp', hapart, hm, hr⟩ :=
      recorded_of_setState ((standing_of_invoke hi).trans ha) hset
    rw [hp.now] at hm
    refine ⟨_, hp.trans hp', rfl, ?_⟩
    rintro _ ⟨⟩
    exact ⟨recorded, ⟨id, answer, List.mem_append_right _ hm, hr⟩, hstate⟩
  · rename_i failure e₁ w₁ hi
    have hp := passage_invoke hb hi
    split at h <;> cases h
    rename_i hx
    obtain ⟨own, hp', hapart⟩ := leads_handleException hx
    refine ⟨_, hp.trans hp', ?_, by simp⟩
    rw [firstValue_append, firstValue_of_isApart hapart]
    rfl

theorem active_of_isRunning (h : e.isRunning) : e.standing = .active := by
  simp only [Engine.isRunning, isShortCircuited, Bool.and_eq_true, Bool.not_eq_true',
    bne_eq_false_iff_eq] at h
  exact h.1

/-- **The attempts of the two runs.** They are the same if none succeeds. Otherwise the run for the
result ends with the first value, and the run for the state ends no later if a state was recorded
for the value that is not running. -/
theorem attempts_returning (hb : body.KeepsFrame)
    (h : e.attempts body .state limit w = some (.ok none, e', left)) : ∃ value e₁ w₁ own,
      e.attempts body .result limit w = some (.ok value, e₁, w₁) ∧ w.Passage own w₁ ∧
      firstValue own = value ∧ (value = none → e₁ = e') ∧
      ∀ v, value = some v → ∃ recorded, Reported w.now v recorded own ∧
        (recorded.isRunning = false → e'.state? = some recorded) := by
  induction limit generalizing e w with
  | zero => simp [attempts] at h
  | succ limit ih =>
    cases hgo : e.isRunning with
    | false =>
      rw [attempts_of_not_isRunning hgo (Nat.succ_pos limit)] at h ⊢
      cases h
      exact ⟨none, _, _, [], rfl, .refl _, rfl, fun _ => rfl, by simp⟩
    | true =>
      cases he : e.attempt body limit w with
      | none => simp [attempts, hgo, he] at h
      | some step =>
        obtain ⟨answer, e₁, w₁⟩ := step
        cases answer with
        | error error => simp [attempts, hgo, he] at h
        | ok value =>
          rw [attempts_succ hgo he] at h ⊢
          rw [if_neg (by simp)] at h
          obtain ⟨own, hp, hfirst, hreported⟩ :=
            reported_of_attempt hb (active_of_isRunning hgo) he
          cases value with
          | none =>
            obtain ⟨value, e₂, w₂, own', hatt, hp', hfirst', hend, hreported'⟩ := ih h
            refine ⟨value, e₂, w₂, own ++ own', by simpa using hatt, hp.trans hp', ?_, hend, ?_⟩
            · rw [firstValue_append, hfirst, Option.none_or, hfirst']
            · intro v hv
              obtain ⟨recorded, ⟨id, answer, hm, hr⟩, hend⟩ := hreported' v hv
              rw [hp.now] at hm
              exact ⟨recorded, ⟨id, answer, List.mem_append_right _ hm, hr⟩, hend⟩
          | some v =>
            refine ⟨some v, e₁, w₁, own, if_pos ⟨rfl, rfl⟩, hp, hfirst, by simp, ?_⟩
            rintro _ ⟨⟩
            obtain ⟨recorded, hrep, hstate⟩ := hreported v rfl
            refine ⟨recorded, hrep, fun hover => ?_⟩
            -- The run for the state goes on from `recorded`, which gives it nothing to do.
            have hnot : e₁.isRunning = false := by simp [Engine.isRunning, hstate, hover]
            cases limit with
            | zero => simp [attempts] at h
            | succ limit =>
              rw [attempts_of_not_isRunning hnot (Nat.succ_pos limit)] at h
              cases h
              exact hstate

end Engine

/-! ## The two runs -/

/-- How the outcome of the run for the result stands to the state `s` that the run for the state
ends with: it is the first value, or without one what the state resolves to. A state that was
recorded for the value and is not running is where the other run ends, too. -/
structure Agrees (options : RunOptions) (time : Timestamp) (s : State) (own : List Event)
    (outcome : Except EngineError RunOutput) : Prop where
  outcome : outcome = match firstValue own with
    | some value => .ok (.value (some value))
    | none => (options.resolution s)
  reported : ∀ value, firstValue own = some value → ∃ recorded,
    Reported time value recorded own ∧ (recorded.isRunning = false → s = recorded)

namespace Agrees

variable {options : RunOptions} {time : Timestamp} {s : State} {own before after : List Event}
  {outcome : Except EngineError RunOutput}

theorem between (h : Agrees options time s own outcome) (hb : ∀ e ∈ before, e.IsApart)
    (ha : ∀ e ∈ after, e.IsApart) : Agrees options time s (before ++ own ++ after) outcome := by
  have hfirst : firstValue (before ++ own ++ after) = firstValue own := by
    rw [firstValue_append, firstValue_append, firstValue_of_isApart hb, firstValue_of_isApart ha,
      Option.none_or, Option.or_none]
  refine ⟨by rw [hfirst]; exact h.outcome, fun value hv => ?_⟩
  obtain ⟨recorded, ⟨id, answer, hm, hr⟩, hend⟩ := h.reported value (hfirst ▸ hv)
  exact ⟨recorded, ⟨id, answer, by simp [hm], hr⟩, hend⟩

/-- Where what is reported is recorded, the run for the result gets what the state resolves to. -/
theorem resolution (h : Agrees options time s own outcome) (ho : options.returnType = .result)
    (hc : RecordsCompletion own) : outcome = options.resolution s := by
  rw [h.outcome]
  cases hv : firstValue own with
  | none => rfl
  | some value =>
    obtain ⟨recorded, ⟨id, answer, hm, hr⟩, hend⟩ := h.reported value hv
    obtain rfl := hc id _ answer recorded hm rfl hr
    rw [hend rfl]
    exact (RunOptions.resolution_completedWith ho time value).symm

end Agrees

namespace Engine

variable {e e' : Engine} {w left : World} {limit : Nat} {s : State} {body : Invoke}
  {options : RunOptions}

theorem state?_of_output (ho : options.returnType = .state)
    (h : e.output options = .ok (.state s)) : e.state? = some s := by
  simp only [output, ho] at h
  split at h
  · rename_i hs
    cases h
    exact hs
  · cases h

theorem drive_returning (hb : body.KeepsFrame)
    (h : e.drive limit body (options.returning .state) w =
      some (.ok (.state s), e', left)) : ∃ outcome e₁ w₁ own,
      e.drive limit body (options.returning .result) w = some (outcome, e₁, w₁) ∧
      w.Passage own w₁ ∧ Agrees (options.returning .result) w.now s own outcome := by
  simp only [drive] at h
  split at h
  · cases h
  · cases h
  · rename_i e₁ w₁ ha
    have ha : e.awaitAdmission (options.returning .result).backoff limit w =
      some (.ok (), e₁, w₁) := ha
    obtain ⟨before, hp, hapart⟩ := leads_awaitAdmission ha
    split at h
    · cases h
    · cases h
    · cases h
    · rename_i e₂ w₂ hatt
      have hs : e₂.state? = some s :=
        state?_of_output rfl (Prod.mk.inj (Option.some.inj h)).1
      obtain ⟨value, e₃, w₃, own, hatt', hp', hfirst, hend, hreported⟩ :=
        attempts_returning hb hatt
      have hatt' : e₁.attempts body (options.returning .result).returnType limit w₁ =
        some (.ok value, e₃, w₃) := hatt'
      have hrep : ∀ v, firstValue own = some v → ∃ recorded, Reported w.now v recorded own ∧
          (recorded.isRunning = false → s = recorded) := by
        intro v hv
        obtain ⟨recorded, hrep, hover⟩ := hreported v (hfirst ▸ hv)
        rw [hp.now] at hrep
        exact ⟨recorded, hrep, fun hr => Option.some.inj (hs.symm.trans (hover hr))⟩
      cases value with
      | some v =>
        have hagrees : Agrees (options.returning .result) w.now s own (.ok (.value (some v))) :=
          ⟨by rw [hfirst], hrep⟩
        refine ⟨.ok (.value (some v)), e₃, w₃, before ++ own, by simp only [drive, ha, hatt'],
          hp.trans hp', ?_⟩
        simpa using hagrees.between hapart (List.forall_mem_nil _)
      | none =>
        obtain rfl := hend rfl
        have hagrees : Agrees (options.returning .result) w.now s own
            ((options.returning .result).resolution s) := ⟨by rw [hfirst], hrep⟩
        refine ⟨(options.returning .result).resolution s, e₃, w₃, before ++ own,
          by simp only [drive, ha, hatt', output_of_state? hs], hp.trans hp', ?_⟩
        simpa using hagrees.between hapart (List.forall_mem_nil _)

/-- The two engines, from the start to the end. -/
theorem execute_returning (hb : body.KeepsFrame)
    (h : e.execute limit body (options.returning .state) w =
      some (.ok (.state s), left)) : ∃ outcome w₁ own,
      e.execute limit body (options.returning .result) w = some (outcome, w₁) ∧
      w.Passage own w₁ ∧ Agrees (options.returning .result) w.now s own outcome := by
  simp only [execute] at h ⊢
  split at h
  · cases h
  · cases h
  · rename_i e₁ w₁ hs
    obtain ⟨before, hp, hapart⟩ := leads_start hs
    by_cases hscope : e₁.scope.isNone
    · rw [if_pos hscope] at h
      cases h
    · rw [if_neg hscope] at h
      split at h
      · cases h
      · rename_i hd
        obtain ⟨hout, rfl⟩ := Prod.mk.inj (Option.some.inj h)
        rw [hout] at hd
        obtain ⟨outcome, e₂, w₂, own, hd', hp', hagrees⟩ := drive_returning hb hd
        obtain ⟨after, hp'', hclerical⟩ := leads_finish e₂ w₂
        rw [hp.now] at hagrees
        refine ⟨outcome, (e₂.finish w₂).2, _, ?_, (hp.trans hp').trans hp'', hagrees.between hapart
          fun x hx => Event.isOfBody_of_isClerical (hclerical x hx)⟩
        simp only [hscope, hd']
        rfl

end Engine

namespace World

variable {w left : World} {limit : Nat} {flow : Flow} {request : RunRequest} {body : Invoke}
  {reply : RunReply} {s : State}

theorem exists_runFlow_agrees (hb : body.KeepsFrame)
    (h : w.runFlow limit body flow (request.returning .state) = some (reply, left))
    (hs : reply.outcome = .ok (.state s)) : ∃ reply' left',
      w.runFlow limit body flow (request.returning .result) = some (reply', left') ∧
      Agrees (request.returning .result).options w.now s (w.conduct left') reply'.outcome := by
  simp only [runFlow] at h
  split at h
  · cases h
    cases hs
  · rename_i client hc
    have hc : w.clientFor (request.returning .result).options = .ok client := hc
    obtain ⟨before, hp, hclerical⟩ :=
      (prepares_board { w with client } (request.returning .state).entry).leads
    split at h <;> rename_i entered heq <;> rw [heq] at hp
    · cases h
      cases hs
    · have hb' : { w with client }.board (request.returning .result).entry = (.ok (), entered) :=
        heq
      split at h
      · cases h
      · rename_i outcome₀ left₀ hx
        obtain ⟨rfl, -⟩ := Prod.mk.inj (Option.some.inj h)
        obtain rfl : outcome₀ = .ok (.state s) := hs
        obtain ⟨outcome, w₁, own, hx', hp', hagrees⟩ := Engine.execute_returning hb hx
        have hx' : (engineFor flow (request.returning .result)).execute limit body
          (request.returning .result).options entered = some (outcome, w₁) := hx'
        have hconduct := ((hp.trans hp').alight hc).conduct
        refine ⟨{ outcome, client := w₁.client }, w.alight (request.returning .result) w₁,
          by simp only [runFlow, hc, hb', hx'], ?_⟩
        rw [hconduct]
        have hall := hagrees.between (fun x hx => Event.isOfBody_of_isClerical (hclerical x hx))
          (List.forall_mem_nil _)
        rw [hp.now, List.append_nil] at hall
        exact hall

/-- **What the two return types report.** When the run for the state ends with the state `s`, the
run for the result gets the value of the first attempt that succeeded, and only without one does it
get what `s` resolves to. So the two agree exactly if `s` resolves to that value, and this is so
whenever the orchestrator records the report that the run is complete as it was made. -/
theorem runFlow_returning {body : Body}
    (h : w.runFlow limit (body.invoke limit) flow (request.returning .state) = some (reply, left))
    (hs : reply.outcome = .ok (.state s)) : ∃ reply' left',
      w.runFlow limit (body.invoke limit) flow (request.returning .result) =
        some (reply', left') ∧
      (∀ value, firstValue (w.conduct left') = some value →
        reply'.outcome = .ok (.value (some value))) ∧
      (reply'.outcome = (request.returning .result).options.resolution s ↔
        ∀ value, firstValue (w.conduct left') = some value →
          (request.returning .result).options.resolution s = .ok (.value (some value))) ∧
      (RecordsCompletion (w.conduct left') →
        reply'.outcome = (request.returning .result).options.resolution s) := by
  obtain ⟨reply', left', hrun, hagrees⟩ :=
    exists_runFlow_agrees (body.keepsFrame_invoke limit) h hs
  refine ⟨reply', left', hrun, fun value hv => ?_, ⟨fun heq value hv => ?_, fun hall => ?_⟩,
    hagrees.resolution rfl⟩
  · rw [hagrees.outcome, hv]
  · rw [← heq, hagrees.outcome, hv]
  · rw [hagrees.outcome]
    cases hv : firstValue (w.conduct left') with
    | none => rfl
    | some value => exact (hall value hv).symm

/-- A flow that does nothing but succeed. -/
def agreeable : Flow × Body := ({ name := "agreeable" }, fun _ _ => .done (.ok (.int 1)))

/-- A request whose orchestrator lets the run begin, and records a failure when it is complete. -/
def overruled : RunRequest :=
  let failure := (State.ofType default .failed).withMessage "overruled"
  { options := { client := some (.inMemory
      { answers := [none, some (.ok (.reject failure "not complete"))] }) } }

theorem runFlow_returning_overruled : ∃ reply' left',
    ({} : World).runFlow 3 (agreeable.2.invoke 3) agreeable.1 (overruled.returning .result) =
      some (reply', left') ∧
    (∀ value, firstValue (({} : World).conduct left') = some value →
      reply'.outcome = .ok (.value (some value))) := by
  obtain ⟨reply', left', hrun, hvalue, -⟩ :=
    @runFlow_returning {} _ 3 agreeable.1 overruled _ _ agreeable.2 rfl rfl
  exact ⟨reply', left', hrun, hvalue⟩

/-- The run for the result gets the value of a run that was recorded as failed. -/
theorem runFlow_overruled : ∃ reply left reply' left' s,
    ({} : World).runFlow 3 (agreeable.2.invoke 3) agreeable.1 (overruled.returning .state) =
      some (reply, left) ∧ reply.outcome = .ok (.state s) ∧
    ({} : World).runFlow 3 (agreeable.2.invoke 3) agreeable.1 (overruled.returning .result) =
      some (reply', left') ∧ reply'.outcome ≠ (overruled.returning .result).options.resolution s :=
  ⟨_, _, _, _, _, rfl, rfl, rfl, fun h => by cases h⟩

end World

end RunEngine
