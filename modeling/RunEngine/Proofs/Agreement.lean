import RunEngine.Proofs.Driving
import RunEngine.Proofs.Permanence

/-!
# Drivers that share a run

Several drivers may be at work on one run of an orchestrator in memory, each with a record of its
own that may be out of date. What they have in common is the store: they propose states, and their
proposals get there in some order, among whatever else is asked of the store.

**A driver** (`Driver`) is a run in a world of its own, whose client gives it answers it cannot
foresee. **Taking part** in a history says what these answers were: the driver's proposals are made
in the history, in the driver's order, and answered as they are there. Nothing is said about how the
proposals of several drivers lie between each other, nor about those of bodies.

**Agreement.** A driver that hands a state back was told that state last, and since no attempt is
put back to PENDING here the state is final. The store then has it on record, and keeps it. So all
drivers hand back the state on record, and only one proposal can have put it there.

Main result: `exists_readFlowRun_of_takesPart`.
-/

namespace RunEngine

/-! ## One accepted end -/

/-- Whether a run was ended as proposed. -/
def Exchange.endsRun (x : Exchange) : Bool :=
  x.proposed.isFinal && match x.answer with
    | .accept _ => true
    | _ => false

namespace StoredRun

variable {hold : Nat} {r : StoredRun} {p : Timestamp × State} {ps : List (Timestamp × State)}

/-- Nothing is accepted for a run that is over. -/
theorem countP_endsRun_of_isFinal (h : r.record.state.isFinal) :
    (r.exchanges hold ps).countP Exchange.endsRun = 0 := by
  induction ps with
  | nil => rfl
  | cons p ps ih =>
    obtain ⟨reason, hr⟩ := @exists_judge_of_isFinal hold p.1 r p.2 h
    rw [exchanges_cons, judge_of_isFinal h, List.countP_cons, ih,
      if_neg (by simp [Exchange.endsRun, exchange, hr])]

/-- A run that was ended as proposed is over. -/
theorem isFinal_judge_of_endsRun (h : (r.exchange hold p).endsRun) :
    (r.judge hold p.1 p.2).2.record.state.isFinal := by
  have hrecorded := @recorded?_judge hold p.1 r p.2
  simp only [Exchange.endsRun, exchange, Bool.and_eq_true] at h
  obtain ⟨hfinal, haccept⟩ := h
  split at haccept
  · rename_i s heq
    rw [heq] at hrecorded
    rw [← Option.some.inj hrecorded, eq_of_judge_accept heq]
    exact hfinal
  · cases haccept

/-- **A run is ended once.** -/
theorem countP_endsRun_le : (r.exchanges hold ps).countP Exchange.endsRun ≤ 1 := by
  induction ps generalizing r with
  | nil => exact Nat.zero_le _
  | cons p ps ih =>
    rw [exchanges_cons, List.countP_cons]
    split
    · rename_i h
      exact Nat.le_of_eq (by rw [countP_endsRun_of_isFinal (isFinal_judge_of_endsRun h)])
    · exact ih

end StoredRun

/-! ## What is told is on record -/

namespace Orchestrator

variable {o : Orchestrator} {ops : List Operation} {x : Exchange} {s : State}

/-- A state that was told at some point of a history was on record then. If it is final, it still is
at the end. -/
theorem exists_find?_performAll_of_mem (hx : x ∈ o.exchanges ops)
    (hs : x.answer.recorded? = some s) (hf : s.isFinal) :
    ∃ r, (o.performAll ops).find? x.id = some r ∧ r.record.state = s := by
  obtain ⟨earlier, id, time, proposed, later, rfl, rfl⟩ := exists_of_mem_exchanges hx
  obtain ⟨r, hr, rfl⟩ := exists_find?_propose hs
  refine ⟨r, ?_, rfl⟩
  rw [performAll_append, performAll_cons]
  exact @find?_performAll_of_isFinal _ later id r hr hf

/-- The report of an attempt is never answered with PENDING. -/
theorem isFinal_of_mem_exchanges (hx : x ∈ o.exchanges ops) (hs : x.answer.recorded? = some s)
    (hp : x.proposed.type = .completed ∨ x.proposed.type = .failed) (hr : s.isRunning = false) :
    s.isFinal := by
  obtain ⟨earlier, id, time, proposed, later, rfl, rfl⟩ := exists_of_mem_exchanges hx
  obtain ⟨r, hfound⟩ := exists_find?_of_recorded? hs
  rw [exchange_of_find? hfound, StoredRun.exchange, StoredRun.recorded?_judge] at hs
  obtain rfl := Option.some.inj hs
  rcases @StoredRun.judge_outcome _ time r proposed hp with hf | ⟨hrunning, -⟩
  · exact hf
  · rw [hr] at hrunning
    cases hrunning

end Orchestrator

/-! ## Drivers -/

/-- A driver for the state that was given the record of the run `id`, with parameters that are
accepted, from its start to its reply. -/
structure Driver (id : Uuid) where
  world : World
  limit : Nat
  flow : Flow
  body : Body
  request : RunRequest
  reply : RunReply
  left : World
  attached : request.options.flowRun.map (·.id) = some id
  accepted : flow.Accepts request.parameters
  returnType : request.options.returnType = .state
  ran : world.runFlow limit (body.invoke limit) flow request = some (reply, left)

namespace Driver

variable {id : Uuid} {d : Driver id} {xs : List Exchange} {output : RunOutput}

/-- What the driver proposed, and how it was answered. -/
def dialogue (d : Driver id) : List (Uuid × State × Except ClientError Answer) :=
  (d.world.conduct d.left).filterMap Event.proposal?

/-- The driver's proposals are among these exchanges, and were answered as they were there. -/
def TakesPart (d : Driver id) (xs : List Exchange) : Prop :=
  ∃ own : List Exchange, own.Sublist xs ∧
    d.dialogue = own.map fun x => (x.id, x.proposed, .ok x.answer)

/-- The state that a driver hands back is the one that it was told last. -/
theorem exists_last (h : d.reply.outcome = .ok output) : ∃ s proposed answer,
    output = .state s ∧ d.dialogue.getLast? = some (id, proposed, .ok answer) ∧
      answer.recorded? = some s ∧
      (s.isFinal ∨ s.isRunning = false ∧
        ∃ attempt, proposed = d.flow.report d.world.now attempt) := by
  cases hc : d.world.clientFor d.request.options with
  | error error =>
    have hran := d.ran
    simp only [World.runFlow, hc] at hran
    rw [← (Prod.mk.inj (Option.some.inj hran)).1] at h
    cases h
  | ok client =>
    have haccount :=
      World.account_runFlow (d.body.keepsFrame_invoke d.limit) d.accepted hc d.ran
    rcases haccount.exists_lastProposal with
      ⟨_, herror, -⟩ | ⟨id', proposed, answer, conclusion, hlast, hid, hconclusion, hout, hw⟩
    · rw [h] at herror
      cases herror
    · obtain ⟨run, hgiven, hrun⟩ := Option.map_eq_some_iff.1 d.attached
      obtain rfl : id = id' := hrun.symm.trans (hid run hgiven)
      rw [h] at hout
      rcases conclusion with _ | ⟨value, s⟩
      · cases hout
      · obtain ⟨answer, rfl, hrecorded⟩ := conclusion?_eq_ok.1 hconclusion
        obtain rfl : value = none := hw.eq_none fun hresult => by
          rw [d.returnType] at hresult
          cases hresult
        rw [RunOptions.concluded, RunOptions.resolution_state d.returnType] at hout
        refine ⟨s, proposed, answer, Except.ok.inj hout, hlast, hrecorded, ?_⟩
        cases hs : s.isFinal with
        | true => exact .inl rfl
        | false =>
          obtain ⟨hpending, attempt, hreport, -⟩ := hw.exists_report hs
          exact .inr ⟨by simp [State.isRunning, hpending, StateType.isRunning], attempt, hreport⟩

end Driver

namespace Orchestrator

variable {o : Orchestrator} {ops : List Operation} {id : Uuid}

/-- What a driver hands back is final, and on record at the end of a history that it took part
in. -/
theorem exists_find?_of_takesPart {d : Driver id} {output : RunOutput}
    (h : d.TakesPart (o.exchanges ops)) (hout : d.reply.outcome = .ok output) :
    ∃ r, (o.performAll ops).find? id = some r ∧ output = .state r.record.state ∧
      r.record.state.isFinal := by
  obtain ⟨own, hsub, hdialogue⟩ := h
  obtain ⟨s, proposed, answer, rfl, hlast, hrecorded, hend⟩ := Driver.exists_last hout
  rw [hdialogue, List.getLast?_map] at hlast
  obtain ⟨x, hx, heq⟩ := Option.map_eq_some_iff.1 hlast
  cases heq
  have hmem : x ∈ o.exchanges ops := hsub.subset (List.mem_of_getLast? hx)
  have hf : s.isFinal := by
    rcases hend with hf | ⟨hr, attempt, hreport⟩
    · exact hf
    · refine isFinal_of_mem_exchanges hmem hrecorded ?_ hr
      rw [hreport, Flow.type_report]
      split <;> simp
  obtain ⟨r, hr, rfl⟩ := exists_find?_performAll_of_mem hmem hrecorded hf
  exact ⟨r, hr, rfl, hf⟩

/-- **Drivers that share a run agree.** Whatever is asked of a store, the run is ended as proposed
at most once. Any number of drivers that took part in it and handed something back handed back the
state that the store has on record for the run, which is final and stays there. -/
theorem exists_readFlowRun_of_takesPart (hrun : (o.flowRun? id).isSome) (drivers : List (Driver id))
    (h : ∀ d ∈ drivers, d.TakesPart (o.exchanges ops)) :
    ((o.exchanges ops).filter (·.id == id)).countP Exchange.endsRun ≤ 1 ∧
    ∃ record, (o.performAll ops).readFlowRun id = .ok record ∧
      ∀ d ∈ drivers, ∀ output, d.reply.outcome = .ok output →
        output = .state record.state ∧ record.state.isFinal ∧
        ∀ later, ((o.performAll ops).performAll later).readFlowRun id = .ok record := by
  obtain ⟨r, hr⟩ : ∃ r, o.find? id = some r := by
    simpa [flowRun?, Option.isSome_iff_exists] using hrun
  have hend := @find?_performAll o ops id r hr
  refine ⟨?_, _, readFlowRun_of_find? hend, fun d hd output hout => ?_⟩
  · rw [filter_exchanges hr]
    exact StoredRun.countP_endsRun_le
  · obtain ⟨r', hr', rfl, hf⟩ := exists_find?_of_takesPart (h d hd) hout
    rw [hend] at hr'
    cases hr'
    exact ⟨rfl, hf, fun later => readFlowRun_of_find? (find?_performAll_of_isFinal hend hf)⟩

/-- A store with a run that may be retried once. -/
def shared : Orchestrator :=
  (createFlowRun {} (.ofRun 0) default
    { flowName := "shared", state := .pending default, policy := { retries := 1 } }).2

/-- A request for the state of that run, from an orchestrator that answers so. -/
def joining (answers : List Answer) : RunRequest :=
  { options :=
      { client := some (.inMemory { answers := answers.map fun a => some (.ok a) })
        flowRun := shared.flowRun? (.ofRun 0)
        returnType := .state } }

/-- A driver that is granted a retry and meanwhile overtaken. -/
def overtaken : Driver (.ofRun 0) where
  world := {}
  limit := 4
  flow := { name := "shared" }
  body n _ := .done (if n = 0 then .error (.plain "not yet") else .ok (.int 1))
  request := joining [.accept (.running default),
    .reject ((State.retrying default).withMessage "Retry 1/1") "retrying after failed attempt 1",
    .reject (.completedWith default (.int 2)) "run is already in terminal state COMPLETED"]
  reply := _
  left := _
  attached := rfl
  accepted := .inr ⟨_, rfl⟩
  returnType := rfl
  ran := rfl

/-- A driver that completes the run in the meantime. -/
def overtaking : Driver (.ofRun 0) where
  world := {}
  limit := 4
  flow := { name := "shared" }
  body _ _ := .done (.ok (.int 2))
  request := joining [.accept (.running default), .accept (.completedWith default (.int 2))]
  reply := _
  left := _
  attached := rfl
  accepted := .inr ⟨_, rfl⟩
  returnType := rfl
  ran := rfl

/-- The proposals of the two, as they get to the store. -/
def interleaved : List Operation :=
  [.propose (.ofRun 0) default (.running default),
    .propose (.ofRun 0) default (.running default),
    .propose (.ofRun 0) default (overtaken.flow.report default (.error (.plain "not yet"))),
    .propose (.ofRun 0) default (.completedWith default (.int 2)),
    .propose (.ofRun 0) default (.completedWith default (.int 1))]

theorem exists_readFlowRun_of_takesPart_interleaved :
    ∃ record, (shared.performAll interleaved).readFlowRun (.ofRun 0) = .ok record ∧
      record.state.isFinal ∧ overtaken.reply.outcome = .ok (.state record.state) ∧
      overtaking.reply.outcome = .ok (.state record.state) := by
  have hovertaken : overtaken.TakesPart (shared.exchanges interleaved) :=
    ⟨_, .cons_cons _ (.cons _ (.cons_cons _ (.cons _ (.cons_cons _ .slnil)))), rfl⟩
  have hovertaking : overtaking.TakesPart (shared.exchanges interleaved) :=
    ⟨_, .cons _ (.cons_cons _ (.cons _ (.cons_cons _ (.cons _ .slnil)))), rfl⟩
  obtain ⟨-, record, hread, hagree⟩ :=
    @exists_readFlowRun_of_takesPart shared interleaved (.ofRun 0) rfl [overtaken, overtaking]
      (by simp [hovertaken, hovertaking])
  obtain ⟨hfirst, hfinal, -⟩ := hagree overtaken (by simp) _ rfl
  obtain ⟨hsecond, -⟩ := hagree overtaking (by simp) _ rfl
  exact ⟨record, hread, hfinal, congrArg Except.ok hfirst, congrArg Except.ok hsecond⟩

end Orchestrator

end RunEngine
