import RunEngine.Proofs.Permanence

/-!
# Runs do not interfere

The users of an orchestrator in memory may create runs and task runs, connect and close, and propose
states for any run and for identifiers that nobody has, in whatever order their calls get there.
What comes of one run is not for the others to decide: take out of such a history what was proposed
for the run, and propose it in the same order to a store that holds this run and no other. The
answers are the same, with the records before and after each of them, and so are the record that is
read in the end and the list of what was proposed.

* What precedes the creation of a run does not concern it (`exchanges_of_unmentioned`,
  `find?_performAll_of_unmentioned`), since the identifier is new.
* What follows concerns it only as far as it proposes a state for the run (`filter_exchanges`,
  `find?_performAll`), and the list of proposals is kept for each run apart
  (`proposals_performAll`).

Main result: **`exchanges_alone_of_fresh`**.
-/

namespace RunEngine

/-! ## What concerns a run -/

/-- The run that an operation creates or proposes a state for. -/
def Operation.subject? : Operation → Option Uuid
  | createFlowRun id _ _ | propose id _ _ => some id
  | _ => none

/-- Whether an operation proposes a state for the run `id`. -/
def Operation.proposesFor (id : Uuid) (op : Operation) : Bool := (op.proposalFor? id).isSome

/-- Every run is created under an identifier that was neither created nor proposed for before. -/
def IdsFresh (ops : List Operation) : Prop :=
  ops.Pairwise fun earlier later => ∀ id, later.created? = some id → earlier.subject? ≠ some id

/-- A run that is created is not mentioned before. -/
theorem IdsFresh.exists_split {ops : List Operation} {id : Uuid} {time : Timestamp}
    {request : FlowRunRequest} (h : IdsFresh ops) (hc : .createFlowRun id time request ∈ ops) :
    ∃ earlier later, ops = earlier ++ .createFlowRun id time request :: later ∧
      ∀ op ∈ earlier, op.subject? ≠ some id := by
  obtain ⟨earlier, later, rfl⟩ := List.append_of_mem hc
  obtain ⟨-, -, hcross⟩ := List.pairwise_append.1 h
  exact ⟨earlier, later, rfl, fun op ho => hcross op ho _ List.mem_cons_self id rfl⟩

theorem proposalsFor_append {id : Uuid} {as bs : List Operation} :
    proposalsFor id (as ++ bs) = proposalsFor id as ++ proposalsFor id bs :=
  List.filterMap_append

theorem proposalsFor_of_unmentioned {id : Uuid} {ops : List Operation}
    (h : ∀ op ∈ ops, op.subject? ≠ some id) : proposalsFor id ops = [] := by
  refine List.filterMap_eq_nil_iff.2 fun op ho => ?_
  have hne := h op ho
  cases op with
  | propose other => simpa [Operation.proposalFor?, Operation.subject?] using hne
  | _ => rfl

/-- The proposals for a run are all that there is to be proposed for it. -/
theorem proposalsFor_filter (id : Uuid) (ops : List Operation) :
    proposalsFor id (ops.filter (Operation.proposesFor id)) = proposalsFor id ops := by
  rw [proposalsFor, List.filterMap_filter]
  refine List.filterMap_congr fun op _ => ?_
  cases h : op.proposalFor? id <;> simp [Operation.proposesFor, h]

namespace Orchestrator

variable {o : Orchestrator} {ops as bs : List Operation} {op : Operation} {id : Uuid}
  {time : Timestamp} {request : FlowRunRequest}

/-! ## Histories in parts -/

theorem exchanges_append :
    o.exchanges (as ++ bs) = o.exchanges as ++ (o.performAll as).exchanges bs := by
  induction as generalizing o with
  | nil => rfl
  | cons op as ih =>
    cases op with
    | propose id time s => exact congrArg (o.exchange id time s :: ·) ih
    | _ => exact ih

/-- One operation adds to what was proposed for a run. -/
theorem proposals_perform : (o.perform op).proposals id =
    o.proposals id ++ (op.proposalFor? id).toList.map (·.2.type) := by
  cases op with
  | connect => exact (o.becomes_connect default).proposals id
  | close => exact (o.becomes_close default).proposals id
  | createFlowRun other time request =>
    exact (o.becomes_createFlowRun time other request).proposals id
  | createTaskRun other request =>
    exact (o.becomes_createTaskRun default other request).proposals id
  | propose other time s =>
    refine ((o.becomes_propose time other s).proposals id).trans ?_
    by_cases h : other = id
    · subst h
      simp [Operation.proposalFor?, statesFor_self]
    · simp [Operation.proposalFor?, statesFor_other h, h]

/-- **What was proposed for a run is remembered in order**, whatever else is asked of the store. -/
theorem proposals_performAll : (o.performAll ops).proposals id =
    o.proposals id ++ (proposalsFor id ops).map (·.2.type) := by
  induction ops generalizing o with
  | nil => simp [proposalsFor]
  | cons op ops ih =>
    rw [performAll_cons, ih, proposals_perform, proposalsFor_cons, List.map_append,
      List.append_assoc]

/-! ## Before a run is created -/

/-- Nothing is said about a run that is not mentioned. -/
theorem exchanges_of_unmentioned (h : ∀ op ∈ ops, op.subject? ≠ some id) :
    (o.exchanges ops).filter (·.id == id) = [] := by
  refine List.filter_eq_nil_iff.2 fun x hx => ?_
  obtain ⟨earlier, other, time, s, later, rfl, rfl⟩ := exists_of_mem_exchanges hx
  have hne : other ≠ id := fun heq => h (.propose other time s) (by simp) (congrArg some heq)
  simpa [exchange] using hne

theorem find?_performAll_of_unmentioned (hn : o.find? id = none)
    (h : ∀ op ∈ ops, op.subject? ≠ some id) : (o.performAll ops).find? id = none := by
  rw [find?_eq_none] at hn ⊢
  rw [ids_performAll, List.mem_append, not_or]
  refine ⟨hn, fun hc => ?_⟩
  obtain ⟨op, ho, hid⟩ := List.mem_filterMap.1 hc
  refine h op ho ?_
  cases op <;> first | exact hid | cases hid

/-! ## The run alone -/

/-- A store that holds one run as it was asked for, and nothing else. -/
def alone (hold : Nat) (id : Uuid) (time : Timestamp) (request : FlowRunRequest) : Orchestrator :=
  { hold, stored := [{ record := request.record id time, policy := request.policy }] }

theorem find?_alone (hold : Nat) : (alone hold id time request).find? id =
    some { record := request.record id time, policy := request.policy } := by
  simp [find?, alone, FlowRunRequest.record]

/-- Where only one run is proposed for, all that is said is about this run. -/
theorem filter_exchanges_of_proposesFor :
    (o.exchanges (ops.filter (Operation.proposesFor id))).filter (·.id == id) =
      o.exchanges (ops.filter (Operation.proposesFor id)) := by
  refine List.filter_eq_self.2 fun x hx => ?_
  obtain ⟨earlier, other, time, s, later, hops, rfl⟩ := exists_of_mem_exchanges hx
  have hm : Operation.propose other time s ∈ ops.filter (Operation.proposesFor id) := by
    rw [hops]
    simp
  have hown := (List.mem_filter.1 hm).2
  simpa [Operation.proposesFor, Operation.proposalFor?, exchange] using hown

/-- **Runs do not interfere.** Take any history of a store that was empty, in which no identifier is
used before the run that is created under it, and any run that is created in it. Then what was said
about the run, the record that is read for it and the list of what was proposed for it are those of
a store with the same rules that holds this run alone, when the same states are proposed for it
there in the same order. -/
theorem exchanges_alone_of_fresh (hstored : o.stored = []) (hlog : o.log = [])
    (hfresh : IdsFresh ops) (hcreated : .createFlowRun id time request ∈ ops) :
    let store := alone o.hold id time request
    let own := ops.filter (Operation.proposesFor id)
    (o.exchanges ops).filter (·.id == id) = store.exchanges own ∧
    (∃ record, (o.performAll ops).readFlowRun id = .ok record ∧
      (store.performAll own).readFlowRun id = .ok record) ∧
    (o.performAll ops).proposals id = (store.performAll own).proposals id := by
  intro store own
  obtain ⟨earlier, later, hops, hnew⟩ := hfresh.exists_split hcreated
  have hown : proposalsFor id own = proposalsFor id later := by
    rw [proposalsFor_filter, hops, proposalsFor_append, proposalsFor_of_unmentioned hnew,
      proposalsFor_cons]
    rfl
  -- The store at the moment of creation has not heard of the run.
  have hnone : (o.performAll earlier).find? id = none :=
    find?_performAll_of_unmentioned (by simp [find?, hstored]) hnew
  let held : StoredRun := { record := request.record id time, policy := request.policy }
  have hfound : ((o.performAll earlier).createFlowRun id time request).2.find? id = some held :=
    find?_createFlowRun_self hnone
  have hhold : ((o.performAll earlier).createFlowRun id time request).2.hold = store.hold :=
    (hold_performAll : (o.performAll earlier).hold = o.hold)
  have hstore : store.find? id = some held := find?_alone o.hold
  refine ⟨?_, ⟨_, readFlowRun_of_find? ?_, readFlowRun_of_find? (find?_performAll hstore)⟩, ?_⟩
  · rw [← filter_exchanges_of_proposesFor, filter_exchanges hstore, hown, hops, exchanges_append,
      List.filter_append, exchanges_of_unmentioned hnew, List.nil_append]
    exact (filter_exchanges hfound).trans (by rw [hhold])
  · rw [hops, performAll_append, performAll_cons, hown]
    exact (find?_performAll hfound).trans (by rw [hhold])
  · rw [proposals_performAll, proposals_performAll, proposalsFor_filter]
    simp [proposals, hlog, store, alone]

/-- A run with one retry. -/
def firstOfTwo : FlowRunRequest :=
  { flowName := "first", state := .pending default, policy := { retries := 1 } }

/-- Two runs, one of which is held back, admitted and retried while the other one is held back,
admitted and completed, and an identifier that nobody has. -/
def crossing : List Operation :=
  [.createFlowRun (.ofRun 0) default firstOfTwo,
    .propose (.ofRun 0) default (.running default),
    .createFlowRun (.ofRun 1) default { flowName := "second", state := .pending default },
    .propose (.ofRun 1) default (.running default),
    .propose (.ofRun 0) default (.running default),
    .propose (.ofRun 2) default (.running default),
    .createTaskRun (.ofTask 0)
      { flowRun := .ofRun 0, name := "second-0", taskKey := "second", dynamicKey := "0",
        state := .pending default },
    .propose (.ofRun 1) default (.running default),
    .propose (.ofRun 0) default (.ofType default .failed),
    .propose (.ofRun 1) default (.completed default)]

theorem exchanges_alone_of_fresh_crossing :
    IdsFresh crossing ∧
    (((exchanges { hold := 1 } crossing).filter (·.id == .ofRun 0)).map fun x =>
      x.answer.recorded?.map State.type) = [some .pending, some .running, some .retrying] ∧
    (performAll { hold := 1 } crossing).proposals (.ofRun 0) = [.running, .running, .failed] := by
  have hfresh : IdsFresh crossing := by
    simp [IdsFresh, crossing, Operation.created?, Operation.subject?, Uuid.ofRun]
  obtain ⟨hexchanges, -, hproposals⟩ := @exchanges_alone_of_fresh { hold := 1 } crossing (.ofRun 0)
    default firstOfTwo rfl rfl hfresh List.mem_cons_self
  refine ⟨hfresh, ?_, hproposals.trans (by decide +kernel)⟩
  rw [hexchanges]
  decide +kernel

end Orchestrator

end RunEngine
