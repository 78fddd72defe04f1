import RunEngine.Proofs.Creation
import RunEngine.Proofs.Visits

/-!
# Admission and attempts

The two loops of the driver, for a run that an orchestrator in memory holds. The engine is in step
with the orchestrator whenever a loop begins a round.

* A new run is held back exactly as often as the orchestrator is set up to, and then its first
  attempt is counted (`awaitAdmission_of_inStep`, `exists_admitted`).
* In an attempt the body may propose what it likes for its own run. The round ends with the proposal
  that reports the attempt, and that puts the engine in step again (`attempt_of_inStep`).
-/

namespace RunEngine

/-- The state that reports how an attempt ended. -/
def Flow.report (flow : Flow) (time : Timestamp) : Except Failure Json → State
  | .ok value => .completedWith time value
  | .error failure => flow.capture.failedState time failure Engine.failureMessage

theorem Flow.type_report (flow : Flow) (time : Timestamp) (outcome : Except Failure Json) :
    (flow.report time outcome).type = if outcome.isOk then .completed else .failed := by
  cases outcome <;> rfl

theorem isSome_toOption {ε α : Type} (x : Except ε α) : x.toOption.isSome = x.isOk := by
  cases x <;> rfl

namespace Engine

variable {e e' : Engine} {w w' : World} {limit hold backoff : Nat} {id : Uuid} {r : StoredRun}
  {log : List StateType} {s : State}

theorem Drives.isPending (h : e.Drives id) (hs : e.state? = some s) :
    e.isPending = s.isPending := by
  simp [Engine.isPending, isShortCircuited, h.active, hs]

theorem Drives.isRunning (h : e.Drives id) (hs : e.state? = some s) :
    e.isRunning = s.isRunning := by
  simp [Engine.isRunning, isShortCircuited, h.active, hs]

/-- A proposal puts an engine in step. -/
theorem Drives.inStep (he : e.Drives id) (h : w.client.Holds hold id r log) (s : State) :
    (e.apply (r.judge hold w.now s).2.record.state).InStep (w.propose id s).2 hold id
      (r.judge hold w.now s).2 (log ++ [s.type]) :=
  ⟨he.apply _, he.state?_apply, (holds_propose h s).1⟩

/-! ## Admission -/

/-- One round of the first loop. -/
theorem awaitAdmission_succ (backoff : Nat) (h : e.InStep w hold id r log) (hl : 0 < limit) :
    e.awaitAdmission backoff (limit + 1) w =
      if (r.judge hold w.now (.running w.now)).2.record.state.isPending then
        (e.apply (r.judge hold w.now (.running w.now)).2.record.state).awaitAdmission backoff limit
          ((w.propose id (.running w.now)).2.sleep backoff)
      else
        some (.ok (), e.apply (r.judge hold w.now (.running w.now)).2.record.state,
          (w.propose id (.running w.now)).2) := by
  have hi := h.drives.inStep h.holds (.running w.now)
  simp only [awaitAdmission, beginRun, h.drives.setState h.holds hl,
    hi.drives.isPending hi.state]

/-- **A run is held back as often as the orchestrator is set up to, and then admitted.** -/
theorem awaitAdmission_of_inStep {left : Nat} (backoff : Nat) (h : e.InStep w hold id r log)
    (hf : r.record.state.isFinal = false) (hr : r.record.state.isRunning = false)
    (hh : r.held + left = hold) (hl : left + 2 ≤ limit) : ∃ e' r' w',
      e.awaitAdmission backoff limit w = some (.ok (), e', w') ∧
      e'.InStep w' hold id r' (log ++ List.replicate (left + 1) .running) ∧
      r'.record.state = .running w.now ∧ r'.record.runCount = r.record.runCount + 1 ∧
      r'.policy = r.policy ∧ r'.record.flowName = r.record.flowName ∧ e'.flow = e.flow ∧
      e'.invocations = e.invocations ∧ w.Spends (left + 1) 0 w' := by
  obtain ⟨limit, rfl⟩ := Nat.exists_eq_add_one_of_ne_zero (Nat.ne_of_gt (Nat.zero_lt_of_lt hl))
  induction left generalizing e w r log limit with
  | zero =>
    have hi := h.drives.inStep h.holds (.running w.now)
    have hround := awaitAdmission_succ backoff h (by omega : 0 < limit)
    have hj := @StoredRun.judge_admitted hold w.now r (.running w.now) hf rfl (by omega)
    rw [hr] at hj
    rw [hj] at hi hround
    exact ⟨_, _, _, hround, hi, rfl, rfl, rfl, rfl, rfl, rfl, (holds_propose h.holds _).2.spends⟩
  | succ left ih =>
    obtain ⟨limit, rfl⟩ := Nat.exists_eq_add_one_of_ne_zero (show limit ≠ 0 by omega)
    have hi := h.drives.inStep h.holds (.running w.now)
    have hround := awaitAdmission_succ backoff h (Nat.succ_pos limit)
    have hj := @StoredRun.judge_held hold w.now r (.running w.now) hf rfl (by omega)
    have hp := (holds_propose h.holds (.running w.now)).2.spends
    rw [hj] at hi hround
    -- The count of proposals held back goes up with each round, and `left` goes down.
    let slept := (w.propose id (.running w.now)).2.sleep backoff
    obtain ⟨e', r', w', he, hstep, hstate, hcount, hpolicy, hname, hflow, hinv, hspends⟩ :=
      ih (w := slept) ⟨hi.drives, hi.state, hi.holds⟩ rfl rfl
        (show r.held + 1 + left = hold by omega) limit (Nat.le_of_succ_le_succ hl)
    refine ⟨e', r', w', hround.trans he, ?_, hstate, hcount, hpolicy, hname, hflow, hinv, ?_⟩
    · rw [List.append_assoc] at hstep
      exact hstep
    · have hspent := (hp.trans (World.passage_sleep _ backoff).spends).trans hspends
      rw [Nat.add_comm (left + 1)]
      exact hspent

/-! ## One attempt -/

/-- The stored run once an attempt, in which `states` were proposed for it, has been reported. -/
def attempted (e : Engine) (hold : Nat) (time : Timestamp) (r : StoredRun) (states : List State)
    (outcome : Except Failure Json) : StoredRun :=
  ((r.replay hold time states).judge hold time (e.flow.report time outcome)).2

variable {body : Invoke} {scope : Scope} {outcome : Except Failure Json} {inside : World}

/-- A body hands its engine the scope back. -/
theorem Drives.invoke (hb : body.KeepsFrame) (h : e.Drives id)
    (hi : e.invoke body w = some (outcome, e', w')) :
    e'.Drives id ∧ e'.flow = e.flow ∧ e'.parameters = e.parameters := by
  obtain ⟨scope, inside, -, hinside, rfl, -⟩ := exists_inside_of_invoke hi
  obtain ⟨own, hp, -⟩ := hb.leads hinside
  have hscope : inside.scopes.head?.isSome := by
    have hd : inside.scopes.length = w.scopes.length + 1 := hp.depth
    cases hs : inside.scopes with
    | nil => simp [hs] at hd
    | cons => rfl
  exact ⟨⟨h.connected, h.active, h.record, hscope⟩, rfl, rfl⟩

/-- The body may have proposed anything, so that the engine is still at work on the run but knows
nothing of the state it is in. -/
theorem invoke_of_inStep (h : e.InStep w hold id r log) (hb : body.KeepsFrame)
    (hs : e.scope = some scope)
    (hv : (e.visit scope w).run body = some (outcome, inside)) : ∃ e' w',
      e.invoke body w = some (outcome, e', w') ∧ e'.Drives id ∧
      w'.client.Holds hold id (r.replay hold w.now ((e.visit scope w).states inside id))
        (log ++ ((e.visit scope w).states inside id).map State.type) ∧
      e'.flow = e.flow ∧ e'.invocations = e.invocations + 1 ∧
      w.Passage [.invoke e.parameters, .returned outcome] w' := by
  have he : e.invoke body w = some (outcome,
      { e with scope := inside.scopes.head?, invocations := e.invocations + 1 },
      { inside with scopes := inside.scopes.tail }.record (.returned outcome)) := by
    rw [Visit.run] at hv
    simp only [visit] at hv
    simp only [invoke, hs, hv]
  obtain ⟨own, hp, -⟩ := hb.leads hv
  exact ⟨_, _, he, (h.drives.invoke hb he).1, h.holds.becomes hp.client, rfl, rfl,
    passage_invoke hb he⟩

/-- **An attempt ends with the engine in step**, whatever the body proposed. -/
theorem attempt_of_inStep (h : e.InStep w hold id r log) (hb : body.KeepsFrame)
    (hs : e.scope = some scope)
    (hv : (e.visit scope w).run body = some (outcome, inside)) (hl : 0 < limit) : ∃ e' w',
      e.attempt body limit w = some (.ok outcome.toOption, e', w') ∧
      e'.InStep w' hold id (e.attempted hold w.now r ((e.visit scope w).states inside id) outcome)
        (log ++ ((e.visit scope w).states inside id).map State.type ++
          [if outcome.isOk then .completed else .failed]) ∧
      e'.flow = e.flow ∧ e'.invocations = e.invocations + 1 ∧ w.Spends 0 1 w' := by
  obtain ⟨e₁, w₁, hi, hd, hh, hflow, hinv, hp⟩ := invoke_of_inStep h hb hs hv
  have hset := hd.setState (s := e.flow.report w.now outcome) hh hl
  have hstep := hd.inStep hh (e.flow.report w.now outcome)
  have hspends := hp.spends.trans (holds_propose hh (e.flow.report w.now outcome)).2.spends
  rw [hp.now] at hset hstep
  rw [Flow.type_report] at hstep
  have hattempt : e.attempt body limit w = some (.ok outcome.toOption, e₁.apply
      (e.attempted hold w.now r ((e.visit scope w).states inside id) outcome).record.state,
      (w₁.propose id (e.flow.report w.now outcome)).2) := by
    cases outcome with
    | ok value =>
      have hset : e₁.setState limit w₁ (.completedWith w.now value) = _ := hset
      simp only [attempt, hi, handleSuccess, hp.now, hset]
      rfl
    | error failure =>
      have hset : e₁.setState limit w₁
        (e.flow.capture.failedState w.now failure failureMessage) = _ := hset
      simp only [attempt, hi, handleException, hp.now, hflow, Option.getD_none, hset]
      rfl
  refine ⟨_, _, hattempt, hstep, hflow, hinv, ?_⟩
  cases outcome <;> exact hspends

end Engine

/-! ## Runs that are created -/

namespace World

variable {w w' w'' : World} {limit hold : Nat} {flow : Flow} {request : RunRequest}

/-- The caller sees what was spent. -/
theorem Spends.alight {client : Client} {m n : Nat} {left : World}
    (hc : w.clientFor request.options = .ok client) (h : { w with client }.Spends m n left) :
    w.Spends m n (w.alight request left) := by
  obtain ⟨own, hp, h⟩ := h
  exact ⟨own, hp.alight hc, h⟩

/-- A run that was set up and driven is finished, and its client handed back. -/
theorem runFlow_of_drive {client : Client} {entered started left : World} {e e' : Engine}
    {body : Invoke} {outcome : Except EngineError RunOutput}
    (hc : w.clientFor request.options = .ok client)
    (hb : { w with client }.board request.entry = (.ok (), entered))
    (hs : (engineFor flow request).start limit entered = some (.ok (), e, started))
    (hscope : e.scope.isSome)
    (hd : e.drive limit body request.options started = some (outcome, e', left)) :
    w.runFlow limit body flow request = some
      ({ outcome, client := (e'.finish left).2.client }, w.alight request (e'.finish left).2) := by
  have hsome : e.scope.isNone = false := by simpa using hscope
  simp only [runFlow, hc, hb, Engine.execute, hs, hsome, hd]
  rfl

theorem exists_runFlow_of_drive {client : Client} {entered started left : World} {e e' : Engine}
    {body : Invoke} {outcome : Except EngineError RunOutput} {id : Uuid} {r : StoredRun}
    {log : List StateType} {m n : Nat} (hc : w.clientFor request.options = .ok client)
    (hb : { w with client }.board request.entry = (.ok (), entered))
    (hs : (engineFor flow request).start limit entered = some (.ok (), e, started))
    (hscope : e.scope.isSome)
    (hd : e.drive limit body request.options started = some (outcome, e', left))
    (hconnected : e'.connected) (hh : left.client.Holds hold id r log)
    (hspent : { w with client }.Spends m n left) :
    ∃ reply w', w.runFlow limit body flow request = some (reply, w') ∧ reply.outcome = outcome ∧
      reply.client.Holds hold id r log ∧ w.Spends m n w' := by
  have hrun := runFlow_of_drive hc hb hs hscope hd
  refine ⟨_, _, hrun, rfl, ?_, (hspent.trans (Engine.leads_finish e' left).spends).alight hc⟩
  rw [Engine.client_finish hconnected]
  exact hh.close

/-- What the caller of a run gets when its attempts ended with `value`, or without one. -/
def settled (request : RunRequest) (r : StoredRun) : Option Json → Except EngineError RunOutput
  | some value => .ok (.value (some value))
  | none => request.options.resolution r.record.state

/-- A request created its run, which was set up by the engine `e₁`, and admitted and counted once.
Its attempts are about to begin, with the engine `e`. -/
structure Admitted (w : World) (limit hold : Nat) (flow : Flow) (request : RunRequest)
    (client : Client) (entered started admitted : World) (e₁ e : Engine) (r : StoredRun) :
    Prop where
  chosen : w.clientFor request.options = .ok client
  boarded : { w with client }.board request.entry = (.ok (), entered)
  start : (engineFor flow request).start limit entered = some (.ok (), e₁, started)
  scope : e₁.scope.isSome
  admission :
    e₁.awaitAdmission request.options.backoff limit started = some (.ok (), e, admitted)
  inStep : e.InStep admitted hold w.nextRun r (List.replicate (hold + 1) .running)
  state : r.record.state = .running w.now
  runCount : r.record.runCount = 1
  retries : r.policy.retries = flow.retries
  flowName : r.record.flowName = flow.name
  flow : e.flow = flow
  invocations : e.invocations = 0
  spends : { w with client }.Spends (hold + 1) 0 admitted

namespace Admitted

variable {client : Client} {entered started admitted left : World} {e₁ e e' : Engine}
  {r r' : StoredRun} {body : Invoke}

theorem visits (h : w.Admitted limit hold flow request client entered started admitted e₁ e r)
    (body : Invoke) : w.visits limit body flow request =
      e.visits body request.options.returnType limit admitted := by
  have hscope : e₁.scope.isNone = false := by simpa using h.scope
  simp only [World.visits, Engine.allVisits, Engine.driveVisits, h.chosen, h.boarded, h.start,
    hscope, h.admission, Bool.false_eq_true, if_false]

/-- The driver goes on with the attempts. -/
theorem drive_eq {value : Option Json} {log : List StateType}
    (h : w.Admitted limit hold flow request client entered started admitted e₁ e r)
    (hatt : e.attempts body request.options.returnType limit admitted =
      some (.ok value, e', left))
    (hstep : e'.InStep left hold w.nextRun r' log) :
    e₁.drive limit body request.options started = some (settled request r' value, e', left) := by
  simp only [Engine.drive, h.admission, hatt]
  cases value with
  | none => simp only [Engine.output_of_state? hstep.state, settled]
  | some value => rfl

/-- The caller of a run that is admitted gets what comes of its attempts. -/
theorem exists_runFlow {value : Option Json} {log : List StateType} {m n : Nat}
    (h : w.Admitted limit hold flow request client entered started admitted e₁ e r)
    (hatt : e.attempts body request.options.returnType limit admitted =
      some (.ok value, e', left))
    (hstep : e'.InStep left hold w.nextRun r' log) (hspent : admitted.Spends m n left) :
    ∃ reply w', w.runFlow limit body flow request = some (reply, w') ∧
      reply.outcome = settled request r' value ∧
      reply.client.Holds hold w.nextRun r' log ∧ w.Spends (hold + 1 + m) n w' := by
  have hall := h.spends.trans hspent
  rw [Nat.zero_add] at hall
  exact exists_runFlow_of_drive h.chosen h.boarded h.start h.scope (h.drive_eq hatt hstep)
    hstep.drives.connected hstep.holds hall

/-- If the attempts have no answer, then the caller gets none. -/
theorem runFlow_eq_none
    (h : w.Admitted limit hold flow request client entered started admitted e₁ e r)
    (hatt : e.attempts body request.options.returnType limit admitted = none) :
    w.runFlow limit body flow request = none := by
  have hscope : e₁.scope.isNone = false := by simpa using h.scope
  simp only [World.runFlow, h.chosen, h.boarded, Engine.execute, h.start, hscope, Engine.drive,
    h.admission, hatt, Bool.false_eq_true, if_false]

end Admitted

/-- **A created run comes to its attempts**, admitted and counted once. -/
theorem exists_admitted (h : w.Creates request hold) (hp : flow.Accepts request.parameters)
    (hl : hold + 2 ≤ limit) : ∃ client entered started admitted e₁ e r,
      w.Admitted limit hold flow request client entered started admitted e₁ e r := by
  obtain ⟨hungiven, client, hc, hh⟩ := h
  have hboard := (prepares_board { w with client } request.entry).leads.spends
  obtain ⟨entered, hb, hh⟩ := hh.board request.entry
  rw [hb] at hboard
  obtain ⟨e₁, r₁, started, hs, hstep₁, hnew, hflow₁, hinv₁, hleads⟩ :=
    Engine.start_of_valid (e := engineFor flow request) limit hh hungiven rfl rfl hp
  obtain ⟨e, r, admitted, ha, hstep, hstate, hcount, hpolicy, hname, hflow, hinv, hspends⟩ :=
    Engine.awaitAdmission_of_inStep request.options.backoff hstep₁
      (by simp [State.isFinal, hnew.state, StateType.isFinal])
      (by simp [State.isRunning, hnew.state, StateType.isRunning])
      (show r₁.held + hold = hold by rw [hnew.held, Nat.zero_add]) hl
  have hentered := (hboard.trans hleads.spends).trans hspends
  have hnow : started.now = w.now := (hboard.trans hleads.spends).now
  rw [hnow] at hstate
  simp only [Nat.zero_add] at hentered
  exact ⟨client, entered, started, admitted, e₁, e, r, hc, hb, hs, hstep₁.drives.scope, ha, hstep,
    hstate, by rw [hcount, hnew.runCount]; rfl, (congrArg _ hpolicy).trans hnew.retries,
    hname.trans hnew.flowName, hflow.trans hflow₁, hinv.trans hinv₁, hentered⟩

/-- What the caller of a created run gets is what comes of its attempts. -/
theorem exists_admission (h : w.Creates request hold) (hp : flow.Accepts request.parameters)
    (hl : hold + 2 ≤ limit) : ∃ (e : Engine) (r : StoredRun) (admitted : World),
      e.InStep admitted hold w.nextRun r (List.replicate (hold + 1) .running) ∧
      r.record.state = .running w.now ∧ r.record.runCount = 1 ∧ r.policy.retries = flow.retries ∧
      e.flow = flow ∧ e.invocations = 0 ∧ admitted.now = w.now ∧
      ∀ body, w.visits limit body flow request =
          e.visits body request.options.returnType limit admitted ∧
        ∀ (value : Option Json) (e' : Engine) (r' : StoredRun) (log : List StateType)
          (left : World) (n : Nat),
          e.attempts body request.options.returnType limit admitted =
            some (.ok value, e', left) →
          e'.InStep left hold w.nextRun r' log → admitted.Spends 0 n left →
          ∃ reply w', w.runFlow limit body flow request = some (reply, w') ∧
            reply.outcome = settled request r' value ∧
            reply.client.Holds hold w.nextRun r' log ∧ w.Spends (hold + 1) n w' := by
  obtain ⟨client, entered, started, admitted, e₁, e, r, ha⟩ := exists_admitted h hp hl
  exact ⟨e, r, admitted, ha.inStep, ha.state, ha.runCount, ha.retries, ha.flow, ha.invocations,
    ha.spends.now, fun body => ⟨ha.visits body, fun _ _ _ _ _ _ hatt hstep hspent =>
      ha.exists_runFlow hatt hstep hspent⟩⟩

/-- A created run with invalid parameters is stored as failed, and its caller gets that. -/
theorem exists_rejection {invalid : ValidationError} (body : Invoke) (h : w.Creates request hold)
    (hv : flow.validates) (hi : flow.schema.validate request.parameters = .error invalid)
    (hl : 0 < limit) : ∃ reply w' r, w.runFlow limit body flow request = some (reply, w') ∧
      reply.outcome = request.options.resolution r.record.state ∧
      reply.client.Holds hold w.nextRun r [.failed] ∧ r.record.state.isFinal ∧
      w.Spends 0 0 w' := by
  obtain ⟨hungiven, client, hc, hh⟩ := h
  have hboard := (prepares_board { w with client } request.entry).leads.spends
  obtain ⟨entered, hb, hh⟩ := hh.board request.entry
  rw [hb] at hboard
  obtain ⟨e, r, started, hs, hover, hconnected, hholds, hfinal, hspends⟩ :=
    Engine.start_of_invalid (e := engineFor flow request) hh hungiven rfl rfl hv hi hl
  have hdrive : e.drive limit body request.options started = _ :=
    Engine.drive_of_shortCircuited hover.standing hover.state hl
  obtain ⟨reply, w', hrun, hout, hheld, hspent⟩ := exists_runFlow_of_drive hc hb hs hover.scope
    hdrive hconnected hholds (hboard.trans hspends)
  exact ⟨reply, w', r, hrun, hout, hheld, hfinal, hspent⟩

end World

end RunEngine
