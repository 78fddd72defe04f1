import RunEngine.Proofs.Store

/-!
# Histories of a store

A history is a list of what an orchestrator in memory is asked to do, one operation after the other,
by whoever uses it. The operations of several users of a store are one history, in the order in
which they get there.

Of a history two things are of interest: the store that it leaves (`performAll`), and what was said
about each state that was proposed in the course of it (`exchanges`). A run that is stored goes its
own way through a history: what it becomes, and what is said about the states proposed for it,
depends on these states and on nothing else that is asked of the store (`find?_performAll`,
`filter_exchanges`). Once it is over it stays as it is (`find?_performAll_of_isFinal`).
-/

namespace RunEngine

/-! ## Operations -/

/-- What an orchestrator in memory is asked to do. -/
inductive Operation where
  | connect
  | close
  | createFlowRun (id : Uuid) (time : Timestamp) (request : FlowRunRequest)
  | createTaskRun (id : Uuid) (request : TaskRunRequest)
  | propose (id : Uuid) (time : Timestamp) (state : State)

/-- The identifier of the run that an operation creates. -/
def Operation.created? : Operation → Option Uuid
  | createFlowRun id _ _ => some id
  | _ => none

/-- The identifiers of the runs that are created in a history, in order. -/
def created (ops : List Operation) : List Uuid := ops.filterMap Operation.created?

/-- The state that an operation proposes for the run `id`, and when. -/
def Operation.proposalFor? (id : Uuid) : Operation → Option (Timestamp × State)
  | propose other time s => if other = id then some (time, s) else none
  | _ => none

/-- The states that are proposed for a run in a history, in order. -/
def proposalsFor (id : Uuid) (ops : List Operation) : List (Timestamp × State) :=
  ops.filterMap (Operation.proposalFor? id)

/-- What was said about a state that was proposed for a run, with the record of the run before and
after. -/
structure Exchange where
  id : Uuid
  proposed : State
  answer : Answer
  before : Option FlowRun
  after : Option FlowRun

/-! ## One run -/

namespace StoredRun

/-- The run once these states were proposed for it, one after the other. -/
def judgeAll (hold : Nat) (r : StoredRun) (ps : List (Timestamp × State)) : StoredRun :=
  ps.foldl (fun r p => (r.judge hold p.1 p.2).2) r

/-- What is said about a state that is proposed for the run. -/
def exchange (hold : Nat) (r : StoredRun) (p : Timestamp × State) : Exchange :=
  { id := r.record.id
    proposed := p.2
    answer := (r.judge hold p.1 p.2).1
    before := some r.record
    after := some (r.judge hold p.1 p.2).2.record }

/-- What is said about states that are proposed for the run, one after the other. -/
def exchanges (hold : Nat) : StoredRun → List (Timestamp × State) → List Exchange
  | _, [] => []
  | r, p :: ps => r.exchange hold p :: (r.judge hold p.1 p.2).2.exchanges hold ps

variable {hold : Nat} {r : StoredRun} {p : Timestamp × State} {ps : List (Timestamp × State)}

@[simp] theorem judgeAll_nil : r.judgeAll hold [] = r := rfl

@[simp] theorem judgeAll_cons :
    r.judgeAll hold (p :: ps) = (r.judge hold p.1 p.2).2.judgeAll hold ps := rfl

@[simp] theorem exchanges_nil : r.exchanges hold [] = [] := rfl

@[simp] theorem exchanges_cons : r.exchanges hold (p :: ps) =
    r.exchange hold p :: (r.judge hold p.1 p.2).2.exchanges hold ps := rfl

theorem judgeAll_of_isFinal (h : r.record.state.isFinal) : r.judgeAll hold ps = r := by
  induction ps with
  | nil => rfl
  | cons p ps ih => rw [judgeAll_cons, judge_of_isFinal h, ih]

end StoredRun

/-! ## Stores -/

namespace Orchestrator

/-- The store after an operation. -/
def perform (o : Orchestrator) : Operation → Orchestrator
  | .connect => o.connect.2
  | .close => o.close
  | .createFlowRun id time request => (o.createFlowRun id time request).2
  | .createTaskRun id request => (o.createTaskRun id request).2
  | .propose id time s => (o.propose time id s).2

/-- The store after a history. -/
def performAll (o : Orchestrator) (ops : List Operation) : Orchestrator := ops.foldl perform o

/-- What is said about a state that is proposed for a run. -/
def exchange (o : Orchestrator) (id : Uuid) (time : Timestamp) (s : State) : Exchange :=
  { id
    proposed := s
    answer := (o.propose time id s).1
    before := o.flowRun? id
    after := (o.propose time id s).2.flowRun? id }

/-- What is said in the course of a history. -/
def exchanges : Orchestrator → List Operation → List Exchange
  | _, [] => []
  | o, .propose id time s :: ops =>
    o.exchange id time s :: (o.perform (.propose id time s)).exchanges ops
  | o, op :: ops => (o.perform op).exchanges ops

variable {o : Orchestrator} {op : Operation} {ops : List Operation} {id : Uuid}
  {time : Timestamp} {request : FlowRunRequest} {r : StoredRun} {s : State} {x : Exchange}

@[simp] theorem performAll_nil : o.performAll [] = o := rfl

@[simp] theorem performAll_cons : o.performAll (op :: ops) = (o.perform op).performAll ops := rfl

theorem performAll_append {later : List Operation} :
    o.performAll (ops ++ later) = (o.performAll ops).performAll later := List.foldl_append

@[simp] theorem hold_perform : (o.perform op).hold = o.hold := by
  cases op with
  | connect => exact (o.becomes_connect default).hold
  | close => rfl
  | createFlowRun => rfl
  | createTaskRun id request => exact (o.becomes_createTaskRun default id request).hold
  | propose => exact hold_propose

theorem hold_performAll : (o.performAll ops).hold = o.hold := by
  induction ops generalizing o with
  | nil => rfl
  | cons op ops ih => rw [performAll_cons, ih, hold_perform]

theorem proposalsFor_cons : proposalsFor id (op :: ops) =
    (op.proposalFor? id).toList ++ proposalsFor id ops := by
  cases h : op.proposalFor? id <;> simp [proposalsFor, h]

/-- An operation changes a run by a proposal for it, or not at all. -/
theorem find?_perform (h : o.find? id = some r) :
    (o.perform op).find? id = some (r.judgeAll o.hold (op.proposalFor? id).toList) := by
  cases op with
  | connect => exact (o.becomes_connect default).found h
  | close => exact h
  | createFlowRun => exact find?_createFlowRun h
  | createTaskRun other request => exact (o.becomes_createTaskRun default other request).found h
  | propose other time s =>
    simp only [perform, Operation.proposalFor?]
    by_cases hid : other = id
    · subst hid
      rw [if_pos rfl]
      exact find?_propose_self h
    · rw [if_neg hid]
      exact (find?_propose_other (Ne.symm hid)).trans h

/-- **A run becomes what is proposed for it**, whatever else is asked of the store. -/
theorem find?_performAll (h : o.find? id = some r) :
    (o.performAll ops).find? id = some (r.judgeAll o.hold (proposalsFor id ops)) := by
  induction ops generalizing o r with
  | nil => exact h
  | cons op ops ih =>
    rw [performAll_cons, ih (find?_perform h), hold_perform, proposalsFor_cons,
      StoredRun.judgeAll, StoredRun.judgeAll, StoredRun.judgeAll, List.foldl_append]

/-- **A run that is over stays as it is**, whatever is asked of the store. -/
theorem find?_performAll_of_isFinal (h : o.find? id = some r) (hf : r.record.state.isFinal) :
    (o.performAll ops).find? id = some r := by
  rw [find?_performAll h, StoredRun.judgeAll_of_isFinal hf]

/-! ## Identifiers -/

/-- The identifiers of the stored runs, in order. -/
def ids (o : Orchestrator) : List Uuid := o.stored.map (·.record.id)

theorem find?_eq_none : o.find? id = none ↔ id ∉ o.ids := by
  simp [find?, ids]

theorem ids_replace (r : StoredRun) : (o.replace r).ids = o.ids := by
  simp only [ids, replace, List.map_map, List.map_inj_left]
  intro s _
  by_cases h : s.record.id = r.record.id <;> simp [h]

theorem ids_perform : (o.perform op).ids = o.ids ++ op.created?.toList := by
  cases op with
  | connect => simp only [perform, connect]; split <;> simp [ids, Operation.created?]
  | close => simp [perform, close, ids, Operation.created?]
  | createFlowRun =>
    simp [perform, createFlowRun, ids, Operation.created?, FlowRunRequest.record]
  | createTaskRun => simp only [perform, createTaskRun]; split <;> simp [ids, Operation.created?]
  | propose id time s =>
    simp only [perform, propose, Operation.created?, Option.toList_none, List.append_nil]
    split
    · rfl
    · exact ids_replace _

@[simp] theorem ids_propose : (o.propose time id s).2.ids = o.ids :=
  (@ids_perform o (.propose id time s)).trans (List.append_nil _)

/-- A history adds the runs that are created in it. -/
theorem ids_performAll : (o.performAll ops).ids = o.ids ++ created ops := by
  induction ops generalizing o with
  | nil => simp [created]
  | cons op ops ih =>
    rw [performAll_cons, ih, ids_perform, List.append_assoc]
    congr 1
    cases h : op.created? <;> simp [created, h]

/-! ## Exchanges -/

theorem exchange_of_find? (h : o.find? id = some r) :
    o.exchange id time s = r.exchange o.hold (time, s) := by
  have hanswer : (o.propose time id s).1 = (r.judge o.hold time s).1 := by
    rw [propose_of_find? h]
  have hafter : (o.propose time id s).2.find? id = some (r.judge o.hold time s).2 :=
    find?_propose_self h
  simp only [exchange, StoredRun.exchange, flowRun?, h, hanswer, hafter, id_of_find? h,
    Option.map_some]

/-- **What is said about a run depends on what is proposed for it**, and not on what else is asked
of the store. -/
theorem filter_exchanges (h : o.find? id = some r) :
    (o.exchanges ops).filter (·.id == id) = r.exchanges o.hold (proposalsFor id ops) := by
  induction ops generalizing o r with
  | nil => rfl
  | cons op ops ih =>
    have hrest : ((o.perform op).exchanges ops).filter (·.id == id) =
        (r.judgeAll o.hold (op.proposalFor? id).toList).exchanges o.hold (proposalsFor id ops) := by
      rw [ih (find?_perform h), hold_perform]
    rw [proposalsFor_cons]
    cases op with
    | propose other time s =>
      rw [exchanges]
      simp only [Operation.proposalFor?] at hrest ⊢
      by_cases hid : other = id
      · subst hid
        rw [List.filter_cons_of_pos (by simp [exchange]), exchange_of_find? h, hrest]
        simp
      · rw [List.filter_cons_of_neg (by simpa [exchange] using hid), hrest]
        simp [hid]
    | _ => exact hrest

/-- A run that was just created goes its own way through a history. -/
theorem find?_performAll_createFlowRun (hnew : o.find? id = none) :
    let created : StoredRun := { record := request.record id time, policy := request.policy }
    let store := (o.createFlowRun id time request).2
    (store.performAll ops).find? id = some (created.judgeAll o.hold (proposalsFor id ops)) ∧
    (store.exchanges ops).filter (·.id == id) = created.exchanges o.hold (proposalsFor id ops) :=
  ⟨find?_performAll (find?_createFlowRun_self hnew),
    filter_exchanges (find?_createFlowRun_self hnew)⟩

/-- What was said, was said at some point of the history. -/
theorem exists_of_mem_exchanges (h : x ∈ o.exchanges ops) : ∃ earlier id time s later,
    ops = earlier ++ .propose id time s :: later ∧
      x = (o.performAll earlier).exchange id time s := by
  induction ops generalizing o with
  | nil => simp [exchanges] at h
  | cons op ops ih =>
    have hrest : x ∈ (o.perform op).exchanges ops → ∃ earlier id time s later,
        op :: ops = earlier ++ .propose id time s :: later ∧
          x = (o.performAll earlier).exchange id time s := fun hx => by
      obtain ⟨earlier, id, time, s, later, rfl, rfl⟩ := ih hx
      exact ⟨op :: earlier, id, time, s, later, rfl, rfl⟩
    cases op with
    | propose id time s =>
      rcases List.mem_cons.1 h with rfl | hx
      · exact ⟨[], id, time, s, ops, rfl, rfl⟩
      · exact hrest hx
    | _ => exact hrest h

end Orchestrator

end RunEngine
