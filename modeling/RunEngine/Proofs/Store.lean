import RunEngine.Proofs.Verdict

/-!
# What operations do to the store

Between two moments an orchestrator is asked to connect and to close, to create runs and task runs,
and to decide about states proposed for any of its runs. `Becomes` says what that leaves of the
store, and needs only the list of the proposals to say it:

* the log is longer by those proposals, and
* every stored run is what its own proposals make of it (`StoredRun.replay`), whatever was proposed
  for others in between.

It holds of each operation and of any number of them in a row, so a whole execution, with all the
runs nested in it, is described by the states it proposed.
-/

namespace RunEngine

/-- The states proposed for the run `id` among these proposals, in order. -/
def statesFor (id : Uuid) (made : List (Uuid × State)) : List State :=
  (made.filter fun p => p.1 == id).map (·.2)

@[simp] theorem statesFor_nil (id : Uuid) : statesFor id [] = [] := rfl

@[simp] theorem statesFor_append (id : Uuid) (as bs : List (Uuid × State)) :
    statesFor id (as ++ bs) = statesFor id as ++ statesFor id bs := by
  simp [statesFor]

theorem statesFor_self (id : Uuid) (s : State) : statesFor id [(id, s)] = [s] := by
  simp [statesFor]

theorem statesFor_other {id other : Uuid} (h : other ≠ id) (s : State) :
    statesFor id [(other, s)] = [] := by
  simp [statesFor, h]

namespace Orchestrator

variable {o o' o'' : Orchestrator} {time : Timestamp} {id other : Uuid} {r : StoredRun} {s : State}

/-! ## Looking up -/

theorem id_of_find? (h : o.find? id = some r) : r.record.id = id := by
  simpa using List.find?_some h

/-- Putting a run in its place changes what is found under its identifier only. -/
theorem find?_replace (o : Orchestrator) (r : StoredRun) (id : Uuid) : (o.replace r).find? id =
    (o.find? id).map fun s => if s.record.id = r.record.id then r else s := by
  simp only [find?, replace, List.find?_map]
  congr 2
  funext s
  by_cases h : s.record.id = r.record.id <;> simp [h]

theorem find?_replace_other (h : id ≠ r.record.id) : (o.replace r).find? id = o.find? id := by
  rw [find?_replace]
  cases hf : o.find? id with
  | none => rfl
  | some s => rw [Option.map_some, if_neg (by rw [id_of_find? hf]; exact h)]

/-! ## Proposals -/

theorem propose_of_find? (h : o.find? id = some r) : o.propose time id s =
    ((r.judge o.hold time s).1,
      { o with log := o.log ++ [(id, s.type)] }.replace (r.judge o.hold time s).2) := by
  have h' : { o with log := o.log ++ [(id, s.type)] }.find? id = some r := h
  simp only [propose, h']

@[simp] theorem log_propose : (o.propose time id s).2.log = o.log ++ [(id, s.type)] := by
  simp only [propose]
  split <;> rfl

@[simp] theorem hold_propose : (o.propose time id s).2.hold = o.hold := by
  simp only [propose]
  split <;> rfl

@[simp] theorem unreachable_propose : (o.propose time id s).2.unreachable = o.unreachable := by
  simp only [propose]
  split <;> rfl

theorem find?_propose_self (h : o.find? id = some r) :
    (o.propose time id s).2.find? id = some (r.judge o.hold time s).2 := by
  have hid : (r.judge o.hold time s).2.record.id = id := by rw [StoredRun.id_judge, id_of_find? h]
  have h' : { o with log := o.log ++ [(id, s.type)] }.find? id = some r := h
  rw [propose_of_find? h]
  refine (find?_replace _ _ id).trans ?_
  rw [h', Option.map_some, if_pos ((id_of_find? h).trans hid.symm)]

theorem find?_propose_other (h : id ≠ other) :
    (o.propose time other s).2.find? id = o.find? id := by
  cases hf : o.find? other with
  | none =>
    have hf' : { o with log := o.log ++ [(other, s.type)] }.find? other = none := hf
    simp only [propose, hf']
    rfl
  | some r =>
    rw [propose_of_find? hf]
    refine (find?_replace_other ?_).trans rfl
    rw [StoredRun.id_judge, id_of_find? hf]
    exact h

/-! ## Creation -/

theorem find?_createFlowRun {request : FlowRunRequest} (h : o.find? id = some r) :
    (o.createFlowRun other time request).2.find? id = some r := by
  simp only [find?, createFlowRun, List.find?_append] at h ⊢
  rw [h, Option.some_or]

/-- A run that nobody had is found as it was asked for. -/
theorem find?_createFlowRun_self {request : FlowRunRequest} (h : o.find? id = none) :
    (o.createFlowRun id time request).2.find? id =
      some { record := request.record id time, policy := request.policy } := by
  simp only [find?, createFlowRun, List.find?_append] at h ⊢
  rw [h, Option.none_or]
  simp [FlowRunRequest.record]

theorem proposals_eq_append {log : List (Uuid × StateType)} (h : o'.log = o.log ++ log) :
    o'.proposals id = o.proposals id ++ (log.filter fun p => p.1 == id).map (·.2) := by
  simp [proposals, h]

/-! ## Any operations -/

/-- What the store `o` becomes when the states `made` are proposed, among other operations. -/
structure Becomes (time : Timestamp) (o : Orchestrator) (made : List (Uuid × State))
    (o' : Orchestrator) : Prop where
  hold : o'.hold = o.hold
  unreachable : o'.unreachable = o.unreachable
  log : o'.log = o.log ++ made.map fun p => (p.1, p.2.type)
  found : ∀ {id r}, o.find? id = some r →
    o'.find? id = some (r.replay o.hold time (statesFor id made))

namespace Becomes

theorem refl (time : Timestamp) (o : Orchestrator) : o.Becomes time [] o :=
  ⟨rfl, rfl, by simp, fun h => h⟩

theorem trans {as bs : List (Uuid × State)} (h : o.Becomes time as o')
    (h' : o'.Becomes time bs o'') : o.Becomes time (as ++ bs) o'' where
  hold := h'.hold.trans h.hold
  unreachable := h'.unreachable.trans h.unreachable
  log := by rw [h'.log, h.log, List.map_append, List.append_assoc]
  found hf := by
    rw [h'.found (h.found hf), h.hold, statesFor_append, StoredRun.replay_append]

/-- The history of a run grows by what is proposed for it. -/
theorem proposals {made : List (Uuid × State)} (h : o.Becomes time made o') (id : Uuid) :
    o'.proposals id = o.proposals id ++ (statesFor id made).map State.type := by
  rw [proposals_eq_append h.log]
  simp only [statesFor, List.filter_map, List.map_map]
  rfl

end Becomes

theorem becomes_propose (o : Orchestrator) (time : Timestamp) (id : Uuid) (s : State) :
    o.Becomes time [(id, s)] (o.propose time id s).2 where
  hold := hold_propose
  unreachable := unreachable_propose
  log := log_propose
  found {other r} hf := by
    by_cases h : other = id
    · subst h
      rw [find?_propose_self hf, statesFor_self]
      rfl
    · rw [find?_propose_other h, hf, statesFor_other (Ne.symm h)]
      rfl

theorem becomes_connect (o : Orchestrator) (time : Timestamp) :
    o.Becomes time [] o.connect.2 := by
  unfold connect
  split
  · exact .refl ..
  · exact ⟨rfl, rfl, by simp, fun h => h⟩

theorem becomes_close (o : Orchestrator) (time : Timestamp) : o.Becomes time [] o.close :=
  ⟨rfl, rfl, by simp [close], fun h => h⟩

theorem becomes_createFlowRun (o : Orchestrator) (time : Timestamp) (id : Uuid)
    (request : FlowRunRequest) : o.Becomes time [] (o.createFlowRun id time request).2 :=
  ⟨rfl, rfl, by simp [createFlowRun], find?_createFlowRun⟩

theorem becomes_createTaskRun (o : Orchestrator) (time : Timestamp) (id : Uuid)
    (request : TaskRunRequest) : o.Becomes time [] (o.createTaskRun id request).2 := by
  unfold createTaskRun
  split
  · exact .refl ..
  · exact ⟨rfl, rfl, by simp, fun h => h⟩

end Orchestrator

end RunEngine
