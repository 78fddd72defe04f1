import RunEngine.Proofs.Permanence
import RunEngine.Proofs.WholeRun

/-!
# Driving a run again

A call may bring the record of a run that is over by now, and the record may be an old one. Such a
call connects, proposes one state, is told the state that the run ended in, and hands that out. On
the way it proposes to run, or it proposes that the run failed because the parameters do not fit;
either way the answer is the same, and the body is not invoked (`exists_execute_of_isFinal`).

When the body of a run proposes nothing for the run itself, the caller that created the run got the
state that it ended in, or what that resolves to, also where a value ended the attempts at once
(`exists_settled`). To drive the run again then comes to the same.

**`runFlow_again`** puts both together.
-/

namespace RunEngine

/-! ## Stores that are asked about a run that is over -/

namespace Orchestrator

variable {o : Orchestrator} {r : StoredRun} {id : Uuid} {time : Timestamp} {s : State}

/-- To put a run in the place that it is found in changes nothing. -/
theorem replace_of_find? (hids : o.ids.Nodup) (h : o.find? id = some r) : o.replace r = o := by
  have hsame : o.stored.map (fun s => if s.record.id = r.record.id then r else s) = o.stored := by
    refine (List.map_congr_left fun s hs => ?_).trans (List.map_id _)
    by_cases hid : s.record.id = r.record.id
    · rw [if_pos hid]
      exact (eq_of_mem_stored hids h hs (hid.trans (id_of_find? h))).symm
    · rw [if_neg hid]
      rfl
  simp only [replace, hsame]

/-- The store once a state of some type was proposed to no effect. -/
def heard (o : Orchestrator) (id : Uuid) (type : StateType) : Orchestrator :=
  { o with log := o.log ++ [(id, type)] }

/-- **A proposal for a run that is over leaves nothing but a line in the log.** -/
theorem propose_of_isFinal (hids : o.ids.Nodup) (h : o.find? id = some r)
    (hf : r.record.state.isFinal) : (o.propose time id s).2 = o.heard id s.type := by
  rw [propose_of_find? h, StoredRun.judge_of_isFinal hf]
  exact replace_of_find? (o := o.heard id s.type) hids h

end Orchestrator

namespace Client

variable {client : Client} {o : Orchestrator} {r : StoredRun} {id : Uuid} {time : Timestamp}
  {s : State}

/-- The client decides by the rules of an orchestrator in memory alone, which is `o`. -/
def Keeps (client : Client) (o : Orchestrator) : Prop :=
  ∃ c : LocalClient, client = .inMemory c ∧ c.Unscripted ∧ c.orchestrator = o

theorem Keeps.orchestrator?_eq (h : client.Keeps o) : client.orchestrator? = some o := by
  obtain ⟨c, rfl, -, rfl⟩ := h
  rfl

theorem Keeps.holds (h : client.Keeps o) (hf : o.find? id = some r) :
    client.Holds o.hold id r (o.proposals id) := by
  obtain ⟨c, rfl, hu, rfl⟩ := h
  exact ⟨c, rfl, hu, rfl, hf, rfl⟩

theorem Holds.keeps {hold : Nat} {log : List StateType} (h : client.Holds hold id r log) :
    ∃ o, client.Keeps o ∧ o.find? id = some r := by
  obtain ⟨c, rfl, hu, -, hf, -⟩ := h
  exact ⟨c.orchestrator, ⟨c, rfl, hu, rfl⟩, hf⟩

theorem Keeps.connect (h : client.Keeps o) (hr : o.unreachable = false) :
    client.connect.1 = .ok () ∧ client.connect.2.Keeps { o with connects := o.connects + 1 } := by
  obtain ⟨c, rfl, hu, rfl⟩ := h
  have hc : c.connect = (.ok (), { c.note .connect with
      connects := []
      orchestrator := { c.orchestrator with connects := c.orchestrator.connects + 1 } }) := by
    simp [LocalClient.connect, LocalClient.note, hu.connects, Script.take, Orchestrator.connect, hr]
  have hu' : c.connect.2.Unscripted := (c.becomes_connect default).unscripted hu
  rw [hc] at hu'
  simp only [Client.connect, hc]
  exact ⟨trivial, _, rfl, hu', rfl⟩

theorem Keeps.fork (h : client.Keeps o) : client.fork.1 = .ok () ∧ client.fork.2.Keeps o := by
  obtain ⟨c, rfl, hu, rfl⟩ := h
  have hc : c.fork = (.ok (), c.note .fork) := by
    simp only [LocalClient.fork, LocalClient.note, hu.forkError]
  have hu' : c.fork.2.Unscripted := (c.becomes_fork default).unscripted hu
  rw [hc] at hu'
  simp only [Client.fork, hc]
  exact ⟨trivial, _, rfl, hu', rfl⟩

theorem Keeps.close (h : client.Keeps o) :
    client.close.Keeps { o with closes := o.closes + 1 } := by
  obtain ⟨c, rfl, hu, rfl⟩ := h
  exact ⟨c.close, rfl, (c.becomes_close default).unscripted hu, rfl⟩

theorem Keeps.propose (h : client.Keeps o) :
    (client.propose time id s).2.Keeps (o.propose time id s).2 := by
  obtain ⟨c, rfl, hu, rfl⟩ := h
  refine ⟨_, rfl, (c.becomes_propose time id s).unscripted hu, ?_⟩
  simp only [LocalClient.note, Script.take, hu.answers]

end Client

/-! ## The one proposal -/

namespace World

variable {w w' w'' left : World} {o : Orchestrator} {id : Uuid} {type : StateType} {s : State}
  {request : RunRequest}

/-- `w'` comes after `w`, and in between the engine invoked no body and made one proposal, of a
state with that type for the run `id`. It was told that the run is in the state `s`. -/
def Hears (w : World) (id : Uuid) (type : StateType) (s : State) (w' : World) : Prop :=
  ∃ own proposed reason, w.Passage own w' ∧ (∀ e ∈ own, e.isInvocation = false) ∧
    own.filterMap Event.proposal? = [(id, proposed, .ok (.reject s reason))] ∧ proposed.type = type

theorem Hears.after (h : w'.Hears id type s w'') (hb : w.Leads (·.isClerical) w') :
    w.Hears id type s w'' := by
  obtain ⟨own, proposed, reason, hp, hi, hown, ht⟩ := h
  obtain ⟨before, hp', hb⟩ := hb
  refine ⟨before ++ own, proposed, reason, hp'.trans hp,
    List.forall_mem_append.2 ⟨fun e he => isInvocation_of_isClerical (hb e he), hi⟩, ?_, ht⟩
  rw [List.filterMap_append, filterMap_proposal?_of_isClerical hb, hown, List.nil_append]

theorem Hears.before (h : w.Hears id type s w') (ha : w'.Leads (·.isClerical) w'') :
    w.Hears id type s w'' := by
  obtain ⟨own, proposed, reason, hp, hi, hown, ht⟩ := h
  obtain ⟨after, hp', ha⟩ := ha
  refine ⟨own ++ after, proposed, reason, hp.trans hp',
    List.forall_mem_append.2 ⟨hi, fun e he => isInvocation_of_isClerical (ha e he)⟩, ?_, ht⟩
  rw [List.filterMap_append, filterMap_proposal?_of_isClerical ha, hown, List.append_nil]

theorem Hears.alight {client : Client} (hc : w.clientFor request.options = .ok client)
    (h : { w with client }.Hears id type s left) : w.Hears id type s (w.alight request left) := by
  obtain ⟨own, proposed, reason, hp, h⟩ := h
  exact ⟨own, proposed, reason, hp.alight hc, h⟩

theorem keeps_board (h : w.client.Keeps o) (entry : Entry) :
    ∃ entered, w.board entry = (.ok (), entered) ∧ entered.client.Keeps o := by
  cases entry with
  | await => exact ⟨w, rfl, h⟩
  | block =>
    by_cases hr : w.onRuntime
    · have hf : w.fork.1 = .ok () ∧ w.fork.2.client.Keeps o := h.fork
      exact ⟨{ w.fork.2 with onRuntime := true }, by simp only [board, hr, if_true, hf.1], hf.2⟩
    · exact ⟨{ w with onRuntime := true }, by simp [board, hr], h⟩

end World

namespace Engine

variable {e e' : Engine} {w w' : World} {limit : Nat} {o : Orchestrator} {r : StoredRun} {s : State}
  {given run : FlowRun} {options : RunOptions}

/-- **Whatever is proposed for a run that is over, the engine gets the state that it ended in.** -/
theorem exists_setState_of_isFinal (s : State) (ha : e.standing = .active) (hc : e.connected)
    (hr : e.record = some run) (hk : w.client.Keeps o) (hids : o.ids.Nodup)
    (hf : o.find? run.id = some r) (hfinal : r.record.state.isFinal) (hl : 0 < limit) :
    ∃ w', e.setState limit w s = some (.ok r.record.state, e.apply r.record.state, w') ∧
      w'.client.Keeps (o.heard run.id s.type) ∧ w.Hears run.id s.type r.record.state w' := by
  have hholds := hk.holds hf
  obtain ⟨reason, hreason⟩ :=
    @StoredRun.exists_judge_of_isFinal o.hold w.now r s hfinal
  have hset := setState_of_holds (s := s) ha hc hr hholds hl
  have hp := (holds_propose hholds s).2
  rw [StoredRun.judge_of_isFinal hfinal] at hset
  rw [hreason] at hp
  have hlog : (o.propose w.now run.id s).2 = o.heard run.id s.type :=
    Orchestrator.propose_of_isFinal hids hf hfinal
  refine ⟨_, hset, ?_, _, s, reason, hp, by simp [Event.isInvocation], rfl, rfl⟩
  rw [← hlog]
  exact hk.propose

/-- An engine that brings the record of its run is set up when its parameters have been checked. -/
theorem start_of_record {e' : Engine} (hr : e.record = some given) (hc : e.connected = false)
    (hok : w.connect.1 = .ok ())
    (hcheck : { e with connected := true }.checkParameters limit w.connect.2 =
      some (.ok (), e', w')) : e.start limit w = some (.ok (), e'.openScope, w') := by
  have hconnect : w.connect = (.ok (), w.connect.2) := Prod.ext hok rfl
  have hrec : { e with connected := true }.ensureRecord w.connect.2 =
      (.ok given, { e with connected := true }, w.connect.2) := by
    simp only [ensureRecord, hr]
  simp only [start, hc, Bool.false_eq_true, if_false]
  rw [hconnect]
  simp only [setup, hrec, hcheck]

/-- A run that is over and has valid parameters is set up like any other, with the record that was
brought. -/
theorem exists_start_given (limit : Nat) (hp : e.flow.Accepts e.parameters)
    (ha : e.standing = .active) (hc : e.connected = false) (hr : e.record = some given)
    (hok : w.connect.1 = .ok ()) :
    ∃ e', e.start limit w = some (.ok (), e', w.connect.2) ∧ e'.Drives given.id := by
  obtain ⟨parameters, hcheck⟩ :=
    exists_checkParameters_of_accepts (e := { e with connected := true }) limit w.connect.2 hp
  exact ⟨_, start_of_record hr hc hok hcheck, rfl, ha, ⟨given, hr, rfl⟩, by
    simp [openScope, hr]⟩

/-- A run that is over and has invalid parameters is short-circuited with the state that it ended
in, which is not the one that was proposed. -/
theorem exists_start_given_invalid (hp : ¬ e.flow.Accepts e.parameters) (ha : e.standing = .active)
    (hc : e.connected = false) (hr : e.record = some given) (hok : w.connect.1 = .ok ())
    (hk : w.connect.2.client.Keeps o) (hids : o.ids.Nodup) (hf : o.find? given.id = some r)
    (hfinal : r.record.state.isFinal) (hl : 0 < limit) : ∃ e' w',
      e.start limit w = some (.ok (), e', w') ∧ e'.IsOver r.record.state ∧ e'.connected ∧
      w'.client.Keeps (o.heard given.id .failed) ∧
      w.connect.2.Hears given.id .failed r.record.state w' := by
  obtain ⟨hv, invalid, hi⟩ := Flow.exists_of_not_accepts hp
  obtain ⟨w', hset, hk', hhears⟩ := exists_setState_of_isFinal (e := { e with connected := true })
    (e.flow.rejection w.connect.2.now invalid) ha rfl hr hk hids hf hfinal hl
  have hx : { e with connected := true }.handleException limit w.connect.2
      { fault := .validation invalid } validationMessage e.flow.capture = _ := hset
  have hcheck : { e with connected := true }.checkParameters limit w.connect.2 = some (.ok (),
      { { e with connected := true }.apply r.record.state with
        standing := .shortCircuited r.record.state }, w') := by
    simp only [checkParameters, hv, hi, hx, Bool.not_true, Bool.false_eq_true, if_false]
  exact ⟨_, w', start_of_record hr hc hok hcheck,
    ⟨rfl, state?_apply (e := { e with connected := true }) hr, by simp [openScope, apply, hr]⟩,
    rfl, hk', hhears⟩

/-- To drive a run that is over takes one proposal to run. -/
theorem exists_drive_of_isFinal (options : RunOptions) (he : e.Drives given.id)
    (hk : w.client.Keeps o) (hids : o.ids.Nodup) (hf : o.find? given.id = some r)
    (hfinal : r.record.state.isFinal) (hl : 2 ≤ limit) : ∃ e' w',
      (∀ body, e.drive limit body options w =
        some (options.resolution r.record.state, e', w')) ∧ e'.connected ∧
      w'.client.Keeps (o.heard given.id .running) ∧
      w.Hears given.id .running r.record.state w' := by
  obtain ⟨limit, rfl⟩ := Nat.exists_eq_add_one_of_ne_zero (show limit ≠ 0 by omega)
  obtain ⟨run, hr, hid⟩ := he.record
  obtain ⟨w', hset, hk', hhears⟩ := exists_setState_of_isFinal (.running w.now) he.active
    he.connected hr hk hids (hid ▸ hf) hfinal (show 0 < limit by omega)
  have hd : (e.apply r.record.state).Drives given.id := he.apply _
  have hs : (e.apply r.record.state).state? = some r.record.state := he.state?_apply
  have hrunning : r.record.state.isRunning = false := State.isRunning_of_isFinal hfinal
  have hpending : r.record.state.isPending = false := by
    have hover := r.record.state.isFinal_eq
    rw [hfinal] at hover
    simpa [hrunning] using hover
  have hawait : e.awaitAdmission options.backoff (limit + 1) w =
      some (.ok (), e.apply r.record.state, w') := by
    simp only [awaitAdmission, beginRun, hset, hd.isPending hs, hpending, Bool.false_eq_true,
      if_false]
  refine ⟨_, w', fun body => ?_, hd.connected, hid ▸ hk', hid ▸ hhears⟩
  rw [drive, hawait]
  simp only [attempts_of_not_isRunning ((hd.isRunning hs).trans hrunning) (Nat.succ_pos limit),
    output_of_state? hs]

/-- An engine that was set up is finished once it was driven. -/
theorem execute_of_drive {e'' : Engine} {body : Invoke} {started left : World}
    {outcome : Except EngineError RunOutput}
    (hs : e.start limit w = some (.ok (), e', started)) (hscope : e'.scope.isSome)
    (hd : e'.drive limit body options started = some (outcome, e'', left)) :
    e.execute limit body options w = some (outcome, (e''.finish left).2) := by
  have hsome : e'.scope.isNone = false := by simpa using hscope
  simp only [execute, hs, hsome, hd, Bool.false_eq_true, if_false]

/-- **An engine that brings the record of a run that is over gets the state that it ended in**, and
the run is left as it was. -/
theorem exists_execute_of_isFinal (options : RunOptions) (ha : e.standing = .active)
    (hc : e.connected = false) (hr : e.record = some given) (hk : w.client.Keeps o)
    (hreach : o.unreachable = false) (hids : o.ids.Nodup) (hf : o.find? given.id = some r)
    (hfinal : r.record.state.isFinal) (hl : 2 ≤ limit) : ∃ type w',
      (∀ body, e.execute limit body options w =
        some (options.resolution r.record.state, w')) ∧
      w'.client.Keeps { o.heard given.id type with
        connects := o.connects + 1
        closes := o.closes + 1 } ∧
      w.Hears given.id type r.record.state w' := by
  obtain ⟨hok, hk⟩ : w.connect.1 = .ok () ∧ w.connect.2.client.Keeps _ := hk.connect hreach
  have hconnect : w.Leads (·.isClerical) w.connect.2 := (World.passage_connect w).leads_one rfl
  have hdriven : ∃ type e₁ started e₂ left, e.start limit w = some (.ok (), e₁, started) ∧
      e₁.scope.isSome ∧
      (∀ body, e₁.drive limit body options started =
        some (options.resolution r.record.state, e₂, left)) ∧ e₂.connected ∧
      left.client.Keeps ({ o with connects := o.connects + 1 }.heard given.id type) ∧
      w.Hears given.id type r.record.state left := by
    by_cases hp : e.flow.Accepts e.parameters
    · obtain ⟨e₁, hs, hd⟩ := exists_start_given limit hp ha hc hr hok
      obtain ⟨e₂, left, hdrive, hconn, hk', hh⟩ :=
        exists_drive_of_isFinal options hd hk hids hf hfinal hl
      exact ⟨_, e₁, _, e₂, left, hs, hd.scope, hdrive, hconn, hk', hh.after hconnect⟩
    · have hl : 0 < limit := by omega
      obtain ⟨e₁, started, hs, hover, hconn, hk', hh⟩ :=
        exists_start_given_invalid hp ha hc hr hok hk hids hf hfinal hl
      exact ⟨_, e₁, started, e₁, started, hs, hover.scope,
        fun _ => drive_of_shortCircuited hover.standing hover.state hl, hconn, hk',
        hh.after hconnect⟩
  obtain ⟨type, e₁, started, e₂, left, hs, hscope, hd, hconn, hk, hh⟩ := hdriven
  refine ⟨type, _, fun body => execute_of_drive hs hscope (hd body), ?_,
    hh.before (leads_finish e₂ left)⟩
  rw [client_finish hconn]
  exact hk.close

end Engine

/-! ## The run that created the record -/

/-- Nothing is proposed for the run `id` in an invocation. -/
def Visit.Spares (v : Visit) (body : Invoke) (id : Uuid) : Prop :=
  ∀ outcome left, v.run body = some (outcome, left) → v.states left id = []

namespace Engine

variable {e e' : Engine} {w left : World} {limit hold : Nat} {id : Uuid} {r : StoredRun}
  {log : List StateType} {body : Invoke} {returnType : ReturnType} {scope : Scope}

/-- An attempt comes to something only if its invocation does, and with fuel for a proposal. -/
theorem exists_run_of_attempt (h : e.Drives id) (hb : body.KeepsFrame) (hs : e.scope = some scope)
    {result : Except EngineError (Option Json)}
    (he : e.attempt body limit w = some (result, e', left)) :
    (∃ outcome inside, (e.visit scope w).run body = some (outcome, inside)) ∧ 0 < limit := by
  have hset {e₁ : Engine} (hd : e₁.Drives id) (w₁ : World) (s : State) :
      e₁.setState 0 w₁ s = none := by
    obtain ⟨run, hr, -⟩ := hd.record
    simp [setState, hd.active, hd.connected, hr, proposeUntilAnswered]
  have hinvoke : ∃ outcome e₁ w₁, e.invoke body w = some (outcome, e₁, w₁) := by
    cases hi : e.invoke body w with
    | none => simp [attempt, hi] at he
    | some x => exact ⟨x.1, x.2.1, x.2.2, rfl⟩
  obtain ⟨outcome, e₁, w₁, hi⟩ := hinvoke
  refine ⟨?_, Nat.pos_of_ne_zero ?_⟩
  · cases hv : (e.visit scope w).run body with
    | none =>
      have hv : body e.invocations e.parameters (e.enter scope w) = none := hv
      simp [invoke, hs, hv] at hi
    | some x => exact ⟨x.1, x.2, rfl⟩
  · rintro rfl
    have hd := (h.invoke hb hi).1
    cases outcome <;>
      simp [attempt, hi, handleSuccess, handleException, hset hd] at he

/-- The report of an attempt in which nothing was proposed leaves the run over, or running again. A
value is what the run is complete with. -/
theorem attempted_spared (e : Engine) (hold : Nat) (time : Timestamp)
    (hr : r.record.state.isRunning) (outcome : Except Failure Json) :
    ((e.attempted hold time r [] outcome).record.state.isFinal ∨
      (e.attempted hold time r [] outcome).record.state.isRunning) ∧
    ∀ value, outcome = .ok value →
      (e.attempted hold time r [] outcome).record.state = .completedWith time value := by
  have htype := e.flow.type_report time outcome
  have hfinal := State.isFinal_of_isRunning hr
  refine ⟨?_, ?_⟩
  · refine (StoredRun.judge_outcome (s := e.flow.report time outcome) ?_).imp_right And.left
    cases hok : outcome.isOk <;> simp [htype, hok]
  · rintro value rfl
    exact congrArg (·.record.state) (StoredRun.judge_completed hfinal htype)

/-- **Attempts in which nothing is proposed leave the run over**, and a value that ended them is
what the run is complete with. -/
theorem attempts_of_spares (h : e.InStep w hold id r log) (hb : body.KeepsFrame)
    (hv : ∀ v ∈ e.visits body returnType limit w, v.Spares body id)
    (hr : r.record.state.isFinal ∨ r.record.state.isRunning)
    {result : Except EngineError (Option Json)}
    (he : e.attempts body returnType limit w = some (result, e', left)) :
    ∃ value r' log', result = .ok value ∧ e'.InStep left hold id r' log' ∧
      r'.record.state.isFinal ∧ ∀ v, value = some v → returnType = .result ∧
        ∃ time, r'.record.state = .completedWith time v := by
  induction limit generalizing e w r log with
  | zero => simp [attempts] at he
  | succ limit ih =>
    rcases hr with hfinal | hrunning
    · have hnot : e.isRunning = false :=
        (h.drives.isRunning h.state).trans (State.isRunning_of_isFinal hfinal)
      rw [attempts_of_not_isRunning hnot (Nat.succ_pos limit)] at he
      cases he
      exact ⟨none, r, log, rfl, h, hfinal, by simp⟩
    · have hgo : e.isRunning := (h.drives.isRunning h.state).trans hrunning
      obtain ⟨scope, hs⟩ := Option.isSome_iff_exists.1 h.drives.scope
      have hattempt : ∃ result e₁ w₁, e.attempt body limit w = some (result, e₁, w₁) := by
        cases ha : e.attempt body limit w with
        | none => simp [attempts, hgo, ha] at he
        | some x => exact ⟨x.1, x.2.1, x.2.2, rfl⟩
      obtain ⟨_, _, _, ha⟩ := hattempt
      obtain ⟨⟨outcome, inside, hrun⟩, hl⟩ := exists_run_of_attempt h.drives hb hs ha
      obtain ⟨e₁, w₁, ha, hstep, -, -, -⟩ := attempt_of_inStep h hb hs hrun hl
      rw [hv _ (visit_mem_visits hgo hs) outcome inside hrun] at hstep
      obtain ⟨hleft, hvalue⟩ := attempted_spared e hold w.now hrunning outcome
      rw [attempts_succ hgo ha] at he
      by_cases hstop : outcome.toOption.isSome ∧ returnType = .result
      · -- A value ends the attempts at once, and is what the run is complete with.
        rw [if_pos hstop] at he
        cases he
        obtain ⟨value, rfl⟩ : ∃ value, outcome = .ok value := by
          cases outcome with
          | ok value => exact ⟨value, rfl⟩
          | error => simp [Except.toOption] at hstop
        refine ⟨_, _, _, rfl, hstep, ?_, ?_⟩
        · rw [hvalue value rfl]
          rfl
        · rintro v ⟨⟩
          exact ⟨hstop.2, _, hvalue value rfl⟩
      · rw [if_neg hstop] at he
        rw [visits_succ hgo hs ha, if_neg hstop] at hv
        exact ih hstep (fun v hm => hv v (List.mem_cons_of_mem _ hm)) hleft he

end Engine

/-! ## Requests -/

namespace World

variable {w left : World} {limit hold : Nat} {flow : Flow} {request : RunRequest} {body : Body}
  {reply : RunReply} {id : Uuid} {o : Orchestrator} {r : StoredRun}

/-- A request that created its run came back with `reply`, and its body proposed nothing for the
run. -/
structure Settles (w : World) (limit hold : Nat) (body : Body) (flow : Flow) (request : RunRequest)
    (reply : RunReply) : Prop where
  creates : w.Creates request hold
  spares : ∀ v ∈ w.visits limit (body.invoke limit) flow request,
    v.Spares (body.invoke limit) w.nextRun
  admits : hold + 2 ≤ limit
  returned : ∃ left, w.runFlow limit (body.invoke limit) flow request = some (reply, left)

/-- **The caller that created a run gets the state that the run ended in**, or what that resolves
to. -/
theorem Settles.exists_settled (h : w.Settles limit hold body flow request reply) : ∃ r log,
    reply.client.Holds hold w.nextRun r log ∧ r.record.state.isFinal ∧
      reply.outcome = request.options.resolution r.record.state := by
  obtain ⟨left, hrun⟩ := h.returned
  by_cases hp : flow.Accepts request.parameters
  · obtain ⟨client, entered, started, admitted, e₁, e, r, ha⟩ :=
      exists_admitted h.creates hp h.admits
    have hb := body.keepsFrame_invoke limit
    cases hatt : e.attempts (body.invoke limit) request.options.returnType limit admitted with
    | none =>
      rw [ha.runFlow_eq_none hatt] at hrun
      cases hrun
    | some x =>
      obtain ⟨result, e', ended⟩ := x
      obtain ⟨value, r', log, rfl, hstep, hfinal, hvalue⟩ := Engine.attempts_of_spares ha.inStep hb
        (ha.visits (body.invoke limit) ▸ h.spares) (.inr (by rw [ha.state]; rfl)) hatt
      obtain ⟨own, hown, -⟩ := Engine.leads_attempts hb hatt
      obtain ⟨reply', left', hrun', hout, hholds, -⟩ := ha.exists_runFlow hatt hstep hown.spends
      cases hrun.symm.trans hrun'
      refine ⟨r', log, hholds, hfinal, hout.trans ?_⟩
      cases value with
      | none => rfl
      | some value =>
        obtain ⟨hresult, time, hstate⟩ := hvalue value rfl
        rw [hstate, RunOptions.resolution_completedWith hresult]
        rfl
  · obtain ⟨hv, invalid, hi⟩ := Flow.exists_of_not_accepts hp
    have hl : 0 < limit := by have := h.admits; omega
    obtain ⟨reply', left', r, hrun', hout, hholds, hfinal, -⟩ :=
      exists_rejection (body.invoke limit) h.creates hv hi hl
    cases hrun.symm.trans hrun'
    exact ⟨r, _, hholds, hfinal, hout⟩

/-- The request brings a record of the run `id`, which may be an old one, to an orchestrator in
memory. That can be reached, and uses no identifier twice. -/
structure Recalls (w : World) (request : RunRequest) (id : Uuid) (o : Orchestrator) : Prop where
  given : ∃ given, request.options.flowRun = some given ∧ given.id = id
  client : ∃ client, w.clientFor request.options = .ok client ∧ client.Keeps o
  reachable : o.unreachable = false
  distinct : o.ids.Nodup

theorem Recalls.exists_runFlow (h : w.Recalls request id o) (flow : Flow)
    (hf : o.find? id = some r) (hfinal : r.record.state.isFinal) (hl : 2 ≤ limit) :
    ∃ type reply left, (∀ body, w.runFlow limit body flow request = some (reply, left)) ∧
      reply.outcome = request.options.resolution r.record.state ∧
      reply.client.Keeps { o.heard id type with
        connects := o.connects + 1
        closes := o.closes + 1 } ∧
      w.Hears id type r.record.state left := by
  obtain ⟨given, hgiven, rfl⟩ := h.given
  obtain ⟨client, hc, hk⟩ := h.client
  have hboard := (prepares_board { w with client } request.entry).leads
  obtain ⟨entered, hb, hk⟩ := keeps_board (w := { w with client }) hk request.entry
  rw [hb] at hboard
  obtain ⟨type, left, hx, hk, hh⟩ := Engine.exists_execute_of_isFinal (e := engineFor flow request)
    request.options rfl rfl hgiven hk h.reachable h.distinct hf hfinal hl
  refine ⟨type, { outcome := request.options.resolution r.record.state, client := left.client }, _,
    fun body => ?_, rfl, hk, (hh.after hboard).alight hc⟩
  simp only [runFlow, hc, hb, hx body]

/-- **To drive a run again that is over changes nothing.** No body is invoked, one state is
proposed, and the orchestrator has all its runs and tasks as before. The caller gets the state that
the run ended in, or what that resolves to. If the run was created by a call whose body proposed
nothing for it, then whatever was asked of the orchestrator since, a call that is after the same
gets the same. -/
theorem runFlow_again (h : w.Recalls request id o) (hl : 2 ≤ limit) :
    (∀ r, o.find? id = some r → r.record.state.isFinal → ∃ type reply left,
      (∀ body, w.runFlow limit body flow request = some (reply, left)) ∧
      (∀ e ∈ w.conduct left, e.isInvocation = false) ∧
      (∃ proposed reason, (w.conduct left).filterMap Event.proposal? =
        [(id, proposed, .ok (.reject r.record.state reason))]) ∧
      reply.client.Keeps { o with
        connects := o.connects + 1
        closes := o.closes + 1
        log := o.log ++ [(id, type)] } ∧
      (request.options.returnType = .state → reply.outcome = .ok (.state r.record.state)) ∧
      (request.options.returnType = .result → reply.outcome =
        ((r.record.state.resolve request.options.raiseOnFailure).mapError .run).map .ofData)) ∧
    ∀ (w₀ : World) (limit₀ hold : Nat) (body₀ : Body) (flow₀ : Flow) (request₀ : RunRequest)
      (reply₀ : RunReply) (o₀ : Orchestrator) (since : List Operation),
      w₀.Settles limit₀ hold body₀ flow₀ request₀ reply₀ → w₀.nextRun = id →
      reply₀.client.Keeps o₀ → o = o₀.performAll since →
      request.options.returnType = request₀.options.returnType →
      request.options.raiseOnFailure = request₀.options.raiseOnFailure →
      ∃ reply left, (∀ body, w.runFlow limit body flow request = some (reply, left)) ∧
        reply.outcome = reply₀.outcome := by
  refine ⟨fun r hf hfinal => ?_, ?_⟩
  · obtain ⟨type, reply, left, hrun, hout, hk, own, proposed, reason, hp, hi, hown, -⟩ :=
      h.exists_runFlow flow hf hfinal hl
    rw [← hp.conduct] at hi hown
    exact ⟨type, reply, left, hrun, hi, ⟨proposed, reason, hown⟩, hk,
      fun hs => hout.trans (RunOptions.resolution_state hs),
      fun hs => hout.trans (RunOptions.resolution_result hs)⟩
  · rintro w₀ limit₀ hold body₀ flow₀ request₀ reply₀ o₀ since hfirst rfl hk rfl htype hraise
    obtain ⟨r, log, hholds, hfinal, hout₀⟩ := hfirst.exists_settled
    have hf : o₀.find? w₀.nextRun = some r := by
      obtain ⟨c, hc, -, -, hf, -⟩ := hholds
      obtain ⟨c', hc', -, rfl⟩ := hk
      cases hc.symm.trans hc'
      exact hf
    obtain ⟨type, reply, left, hrun, hout, -⟩ := h.exists_runFlow flow
      (Orchestrator.find?_performAll_of_isFinal hf hfinal) hfinal hl
    refine ⟨reply, left, hrun, ?_⟩
    rw [hout, hout₀]
    simp only [RunOptions.resolution, htype, hraise]

/-- A request that brings the record of the first run as it was created, by a caller that blocks. -/
def broughtBack (client : Client) : RunRequest :=
  { entry := .block
    options := {
      client := some client
      flowRun := some (FlowRunRequest.record { flowName := "told", state := .pending default }
        (.ofRun 0) default) } }

theorem runFlow_again_broughtBack : ∃ first before reply left,
    ({} : World).runFlow 3 ((told secondTry).2.invoke 3) (told secondTry).1 heldOnce =
      some (first, before) ∧
    (∀ body, ({} : World).runFlow 2 body strict (broughtBack first.client) = some (reply, left)) ∧
    reply.outcome = first.outcome := by
  obtain ⟨⟨first, before⟩, hfirst⟩ := Option.isSome_iff_exists.1 (show (({} : World).runFlow 3
    ((told secondTry).2.invoke 3) (told secondTry).1 heldOnce).isSome by decide +kernel)
  have hsettles : ({} : World).Settles 3 1 (told secondTry).2 (told secondTry).1 heldOnce first :=
    ⟨⟨rfl, _, rfl, rfl, _, rfl, ⟨⟨rfl, rfl, rfl, rfl, rfl⟩, rfl, rfl, rfl, rfl⟩, by simp⟩,
      fun v _ outcome left hv => by cases hv; exact Client.statesSince_self ..,
      by decide, _, hfirst⟩
  obtain ⟨r, log, hholds, -, -⟩ := hsettles.exists_settled
  obtain ⟨o, hk, -⟩ := hholds.keeps
  have horderly : ((({} : World).runFlow 3 ((told secondTry).2.invoke 3) (told secondTry).1
      heldOnce).all fun p => p.1.client.orchestrator?.all fun o =>
        !o.unreachable && decide o.ids.Nodup) = true := by decide +kernel
  obtain ⟨hreach, hids⟩ : o.unreachable = false ∧ o.ids.Nodup := by
    simpa [hfirst, hk.orchestrator?_eq] using horderly
  obtain ⟨-, hagain⟩ := @runFlow_again {} 2 strict (broughtBack first.client) (.ofRun 0) o
    ⟨⟨_, rfl, rfl⟩, ⟨_, rfl, hk⟩, hreach, hids⟩ (by decide)
  obtain ⟨reply, left, hrun, hout⟩ :=
    hagain {} 3 1 _ _ heldOnce first o [] hsettles rfl hk rfl rfl rfl
  exact ⟨first, before, reply, left, hfirst, hrun, hout⟩

end World

end RunEngine
