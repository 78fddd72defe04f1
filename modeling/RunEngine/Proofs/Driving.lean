import RunEngine.Proofs.Course

/-!
# Engines keep to a course

The operations of an engine that was started, followed one by one, whatever client it has and
whatever its body does: a proposal is answered, a round of the first loop is part of an admission,
and a round of the second is an attempt. In between the engine is at work on one run, with the
parameters that were settled for it (`Engine.Runs`).

**`account_runFlow`** puts them together: every run with valid parameters has an `Account`.
-/

namespace RunEngine

/-! ## The engine -/

namespace Engine

/-- An engine that drives the run `id` of a flow with these parameters. -/
structure Runs (e : Engine) (flow : Flow) (parameters : Parameters) (id : Uuid) : Prop where
  drives : e.Drives id
  flow : e.flow = flow
  parameters : e.parameters = parameters

variable {e e' : Engine} {w w' : World} {limit : Nat} {flow : Flow} {parameters : Parameters}
  {id : Uuid} {s : State} {body : Invoke}

theorem Runs.apply (h : e.Runs flow parameters id) (s : State) :
    (e.apply s).Runs flow parameters id :=
  ⟨h.drives.apply s, h.flow, h.parameters⟩

theorem Runs.invoke {outcome : Except Failure Json} (hb : body.KeepsFrame)
    (h : e.Runs flow parameters id) (hi : e.invoke body w = some (outcome, e', w')) :
    e'.Runs flow parameters id := by
  obtain ⟨hdrives, hflow, hparameters⟩ := h.drives.invoke hb hi
  exact ⟨hdrives, hflow.trans h.flow, hparameters.trans h.parameters⟩

/-! ### The two loops -/

theorem Runs.awaitAdmission (he : e.Runs flow parameters id) {backoff : Nat}
    {r : Except EngineError Unit} (h : e.awaitAdmission backoff limit w = some (r, e', w')) :
    ∃ own conclusion, w.Passage own w' ∧ Admission w.now id own conclusion ∧
      r = conclusion.map (fun _ => ()) ∧
      ∀ s, conclusion = .ok s → e'.Runs flow parameters id ∧ e'.state? = some s := by
  induction limit generalizing e w with
  | zero => simp [Engine.awaitAdmission] at h
  | succ limit ih =>
    simp only [Engine.awaitAdmission] at h
    split at h
    · cases h
    · rename_i hset
      cases h
      obtain ⟨⟨answers, hans, hp⟩, -⟩ := he.drives.answered hset
      exact ⟨_, .error _, hp, .stopped hans, rfl, by simp⟩
    · rename_i recorded e₁ w₁ hset
      obtain ⟨⟨answers, hans, hp⟩, rfl⟩ := he.drives.answered hset
      have hruns : (e.apply recorded).Runs flow parameters id := he.apply recorded
      have hstate : (e.apply recorded).state? = some recorded := he.drives.state?_apply
      have hpending : (e.conclude (.ok recorded)).isPending = recorded.isPending :=
        hruns.drives.isPending hstate
      rw [hpending] at h
      split at h
      · rename_i hs
        obtain ⟨own, conclusion, hp', hadm, hr, hend⟩ := ih hruns h
        rw [show (w₁.sleep backoff).now = w.now from hp.now] at hadm
        exact ⟨_, conclusion, (hp.trans (World.passage_sleep ..)).trans hp',
          by simpa using .held hans hs hadm, hr, hend⟩
      · rename_i hs
        cases h
        refine ⟨_, .ok recorded, hp, .admitted hans (by simpa using hs), rfl, ?_⟩
        rintro _ ⟨⟩
        exact ⟨hruns, hstate⟩

/-- The body was invoked, and its outcome is reported. -/
theorem Runs.report {e₁ : Engine} {w₁ : World} {outcome : Except Failure Json}
    {conclusion : Except EngineError State} (hb : body.KeepsFrame)
    (he : e.Runs flow parameters id) (returnType : ReturnType)
    (hi : e.invoke body w = some (outcome, e₁, w₁))
    (h : e₁.setState limit w₁ (flow.report w₁.now outcome) = some (conclusion, e', w')) :
    ∃ answers, w.Passage
        (Course.Setting.attempt ⟨flow, parameters, returnType, w.now, id⟩ outcome answers) w' ∧
      Answered answers conclusion ∧
      ∀ s, conclusion = .ok s → e'.Runs flow parameters id ∧ e'.state? = some s := by
  have hruns := he.invoke hb hi
  have hp := passage_invoke hb hi
  obtain ⟨⟨answers, hans, hp'⟩, rfl⟩ := hruns.drives.answered h
  rw [hp.now] at hp'
  rw [he.parameters] at hp
  refine ⟨answers, hp.trans hp', hans, ?_⟩
  rintro s rfl
  exact ⟨hruns.apply s, hruns.drives.state?_apply⟩

theorem Runs.attempt (hb : body.KeepsFrame) (he : e.Runs flow parameters id)
    {r : Except EngineError (Option Json)} (h : e.attempt body limit w = some (r, e', w'))
    (returnType : ReturnType) : ∃ outcome answers conclusion,
      w.Passage (Course.Setting.attempt ⟨flow, parameters, returnType, w.now, id⟩ outcome answers)
        w' ∧ Answered answers conclusion ∧ r = conclusion.map (fun _ => outcome.toOption) ∧
      ∀ s, conclusion = .ok s → e'.Runs flow parameters id ∧ e'.state? = some s := by
  simp only [Engine.attempt] at h
  split at h
  · cases h
  · rename_i hi
    split at h
    · cases h
    all_goals
      rename_i hsuccess
      cases h
      simp only [handleSuccess] at hsuccess
      split at hsuccess <;> cases hsuccess
      rename_i hset
      obtain ⟨answers, hp, hans, hend⟩ := he.report hb returnType hi hset
      exact ⟨_, answers, _, hp, hans, rfl, hend⟩
  · rename_i hi
    have hflow := (he.invoke hb hi).flow
    split at h
    · cases h
    all_goals
      rename_i hexception
      cases h
      simp only [handleException, hflow, Option.getD_none] at hexception
      obtain ⟨answers, hp, hans, hend⟩ := he.report hb returnType hi hexception
      exact ⟨_, answers, _, hp, hans, rfl, hend⟩

theorem Runs.attempts (hb : body.KeepsFrame) (he : e.Runs flow parameters id)
    (hs : e.state? = some s) {returnType : ReturnType} {r : Except EngineError (Option Json)}
    (h : e.attempts body returnType limit w = some (r, e', w')) : ∃ own conclusion,
      w.Passage own w' ∧ Attempts ⟨flow, parameters, returnType, w.now, id⟩ s own conclusion ∧
      r = conclusion.map (·.1) ∧ ∀ value t, conclusion = .ok (value, t) → e'.state? = some t := by
  induction limit generalizing e w s with
  | zero => simp [Engine.attempts] at h
  | succ limit ih =>
    simp only [Engine.attempts, he.drives.isRunning hs] at h
    cases hr : s.isRunning with
    | false =>
      rw [hr, Bool.not_false, if_pos rfl] at h
      cases h
      refine ⟨[], .ok (none, s), .refl _, .ended hr, rfl, ?_⟩
      rintro _ _ ⟨⟩
      exact hs
    | true =>
      rw [hr, if_neg (by simp)] at h
      split at h
      · cases h
      · rename_i hattempt
        cases h
        obtain ⟨outcome, answers, conclusion, hp, hans, hconcluded, -⟩ :=
          he.attempt hb hattempt returnType
        cases conclusion with
        | ok => cases hconcluded
        | error =>
          cases hconcluded
          exact ⟨_, .error _, hp, .stopped hr hans, rfl, by simp⟩
      · rename_i value e₁ w₁ hattempt
        obtain ⟨outcome, answers, conclusion, hp, hans, hconcluded, hend⟩ :=
          he.attempt hb hattempt returnType
        cases conclusion with
        | error => cases hconcluded
        | ok recorded =>
          obtain ⟨hruns, hstate⟩ := hend recorded rfl
          cases hconcluded
          split at h
          · rename_i hstop
            cases h
            cases outcome with
            | error => cases hstop.1
            | ok value =>
              refine ⟨_, .ok (some value, recorded), hp, .settled hr hstop.2 hans, rfl, ?_⟩
              rintro _ _ ⟨⟩
              exact hstate
          · rename_i hstop
            obtain ⟨own, conclusion, hp', hatt, hr', hend'⟩ := ih hruns hstate h
            rw [hp.now] at hatt
            refine ⟨_, conclusion, hp.trans hp', .again hr (fun hok => ?_) hans hatt, hr', hend'⟩
            rw [isSome_toOption] at hstop
            cases returnType with
            | state => rfl
            | result => exact absurd ⟨hok, rfl⟩ hstop

/-- An engine that was set up goes through a course, and its caller gets what comes of that. -/
theorem Runs.drive (hb : body.KeepsFrame) (he : e.Runs flow parameters id) {options : RunOptions}
    {outcome : Except EngineError RunOutput}
    (h : e.drive limit body options w = some (outcome, e', w')) : ∃ own conclusion,
      w.Passage own w' ∧ Course ⟨flow, parameters, options.returnType, w.now, id⟩ own conclusion ∧
      outcome = options.concluded conclusion := by
  simp only [Engine.drive] at h
  split at h
  · cases h
  · rename_i ha
    cases h
    obtain ⟨own, conclusion, hp, hadm, hr, -⟩ := he.awaitAdmission ha
    cases conclusion with
    | ok => cases hr
    | error =>
      cases hr
      exact ⟨own, .error _, hp, .stopped hadm, rfl⟩
  · rename_i e₁ w₁ ha
    obtain ⟨own, conclusion, hp, hadm, hr, hend⟩ := he.awaitAdmission ha
    cases conclusion with
    | error => cases hr
    | ok s =>
      obtain ⟨hruns, hstate⟩ := hend s rfl
      cases hatt : e₁.attempts body options.returnType limit w₁ with
      | none =>
        rw [hatt] at h
        cases h
      | some step =>
        obtain ⟨r, e₂, w₂⟩ := step
        obtain ⟨own', conclusion, hp', hattempts, hr, hend⟩ := hruns.attempts hb hstate hatt
        rw [hp.now] at hattempts
        rw [hatt] at h
        have hcourse : Course ⟨flow, parameters, options.returnType, w.now, id⟩ _ conclusion :=
          .admitted hadm hattempts
        rcases conclusion with error | ⟨value | value, t⟩ <;> cases hr <;> cases h
        · exact ⟨_, _, hp.trans hp', hcourse, rfl⟩
        · exact ⟨_, _, hp.trans hp', hcourse, output_of_state? (hend none t rfl)⟩
        · exact ⟨_, _, hp.trans hp', hcourse, rfl⟩

/-! ### Before and after -/

/-- **An engine with valid parameters is set up, or else refused something.** -/
theorem exists_start_of_accepts (limit : Nat) (w : World) (hp : e.flow.Accepts e.parameters)
    (ha : e.standing = .active) (hc : e.connected = false) :
    ∃ (r : Except EngineError Unit) (e' : Engine) (w' : World),
      e.start limit w = some (r, e', w') ∧ w.Prepares r w' ∧
      (r = .ok () → ∃ run parameters, e'.Runs e.flow parameters run.id ∧
        (e.record = some run ∨
          e.record = none ∧ ∃ request, .createFlowRun request (.ok run) ∈ w.conduct w')) := by
  have hconnect := World.prepares_connect w
  cases hr : w.connect with
  | mk answer connected =>
    rw [hr] at hconnect
    cases answer with
    | error error => exact ⟨_, _, _, by simp only [start, hc, hr]; rfl, hconnect,
        fun h => by cases h⟩
    | ok =>
      have hprep := prepares_ensureRecord { e with connected := true } connected
      rcases exists_ensureRecord { e with connected := true } connected with
        ⟨error, left, heq⟩ | ⟨run, left, heq, hrun⟩ <;> rw [heq] at hprep
      · have hclose : left.Leads (·.isClerical) left.close :=
          (World.passage_close left).leads_one rfl
        have herror : connected.Prepares (.error error : Except EngineError Unit) left :=
          hprep.imp fun _ => And.imp_right (And.imp_right fun hr e h => hr e (by cases h; rfl))
        exact ⟨.error error, _, left.close, by simp only [start, hc, hr, setup, heq]; rfl,
          hconnect.leads.prepares (herror.before hclose), by simp⟩
      · obtain ⟨parameters, hcheck⟩ := @exists_checkParameters_of_accepts
          { e with connected := true, record := some run } limit left hp
        refine ⟨.ok (), _, left, by simp only [start, hc, hr, setup, heq, hcheck]; rfl,
          hconnect.before hprep.leads, fun _ => ⟨run, parameters, ?_, hrun.imp_right ?_⟩⟩
        · exact ⟨⟨rfl, ha, ⟨run, rfl, rfl⟩, rfl⟩, rfl, rfl⟩
        · rintro ⟨hnone, request, hm⟩
          refine ⟨hnone, request, ?_⟩
          obtain ⟨before, hbefore, -⟩ := hconnect
          obtain ⟨after, hafter, -⟩ := hprep
          rw [hafter.conduct] at hm
          rw [(hbefore.trans hafter).conduct]
          exact List.mem_append_right _ hm

end Engine

/-! ## Requests -/

namespace World

variable {w left : World} {limit : Nat} {body : Invoke} {flow : Flow} {request : RunRequest}
  {outcome : Except EngineError RunOutput}

/-- `left` comes after `w`, and in between the engine at the depth of `w` was driven. -/
def Accounts (w : World) (flow : Flow) (request : RunRequest)
    (outcome : Except EngineError RunOutput) (left : World) : Prop :=
  ∃ own, w.Passage own left ∧ Account flow request w.now own outcome

theorem Prepares.accounts {α : Type} {error : EngineError}
    (h : w.Prepares (.error error : Except EngineError α) left) :
    w.Accounts flow request (.error error) left := by
  obtain ⟨own, hp, hc, hr⟩ := h
  exact ⟨own, hp, .refused hc (hr error rfl)⟩

theorem accounts_execute (hb : body.KeepsFrame) (hp : flow.Accepts request.parameters)
    (h : (engineFor flow request).execute limit body request.options w = some (outcome, left)) :
    w.Accounts flow request outcome left := by
  obtain ⟨r, e₁, started, hs, hprep, hok⟩ :=
    Engine.exists_start_of_accepts (e := engineFor flow request) limit w hp rfl rfl
  simp only [Engine.execute, hs] at h
  cases r with
  | error error =>
    cases h
    exact hprep.accounts
  | ok =>
    obtain ⟨run, parameters, hruns, hrun⟩ := hok rfl
    have hscope : e₁.scope.isNone = false := by simpa using hruns.drives.scope
    simp only [hscope, Bool.false_eq_true, if_false] at h
    split at h
    · cases h
    · rename_i e₂ w₂ hd
      cases h
      obtain ⟨before, hp, hb'⟩ := hprep.leads
      obtain ⟨own, conclusion, hp', hcourse, rfl⟩ := hruns.drive hb hd
      obtain ⟨after, hp'', ha⟩ := Engine.leads_finish e₂ w₂
      rw [hp.now] at hcourse
      rw [hp.conduct] at hrun
      exact ⟨_, (hp.trans hp').trans hp'', .driven hb' ha hrun hcourse⟩

/-- **The account of a run with valid parameters**, whatever its client and its body do. -/
theorem account_runFlow {client : Client} {reply : RunReply} (hb : body.KeepsFrame)
    (hp : flow.Accepts request.parameters) (hc : w.clientFor request.options = .ok client)
    (h : w.runFlow limit body flow request = some (reply, left)) :
    Account flow request w.now (w.conduct left) reply.outcome := by
  have hboard := prepares_board { w with client } request.entry
  simp only [runFlow, hc] at h
  split at h <;> rename_i heq <;> rw [heq] at hboard
  · cases h
    obtain ⟨own, hpass, haccount⟩ : { w with client }.Accounts flow request _ _ := hboard.accounts
    rw [(hpass.alight hc).conduct]
    exact haccount
  · split at h
    · cases h
    · rename_i hx
      cases h
      obtain ⟨before, hpass, hclerical⟩ := hboard.leads
      obtain ⟨own, hpass', haccount⟩ := accounts_execute hb hp hx
      rw [hpass.now] at haccount
      rw [((hpass.trans hpass').alight hc).conduct]
      simpa using haccount.between hclerical (List.forall_mem_nil _)

end World

end RunEngine
