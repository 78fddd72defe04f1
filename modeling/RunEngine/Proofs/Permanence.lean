import Mathlib.Data.List.Nodup
import RunEngine.Proofs.History

/-!
# Answers and records

What an orchestrator in memory answers to a proposal is what it has on record afterwards, and the
record of a run that is over is never written again.

* A proposal writes the state and the count of attempts of the run that it is for, and nothing else
  (`record_judge`, `exists_flowRuns_propose`).
* A run that is not there is the only one that is told to stop (`propose_of_unknown`).
* A run that is over is told the state that it ended in (`exists_propose_of_isFinal`).

**`propose_of_reached`** says so of every store that a history leads to, where runs may be created
in any state.
-/

namespace RunEngine

namespace StoredRun

variable {hold : Nat} {time : Timestamp} {r : StoredRun} {s t : State}

/-- A proposal writes two fields of a record. -/
theorem record_judge : (r.judge hold time s).2.record =
    { r.record with
      state := (r.judge hold time s).2.record.state
      runCount := (r.judge hold time s).2.record.runCount } := by
  have h := verdict_judge hold time r s
  generalize r.judge hold time s = v at h ⊢
  cases h <;> rfl

/-- What is accepted is what was proposed. -/
theorem eq_of_judge_accept (h : (r.judge hold time s).1 = .accept t) : t = s := by
  have hv := verdict_judge hold time r s
  generalize r.judge hold time s = v at h hv
  cases hv <;> cases h <;> rfl

theorem exists_judge_of_isFinal (h : r.record.state.isFinal) :
    ∃ reason, (r.judge hold time s).1 = .reject r.record.state reason :=
  ⟨_, by simp only [judge, h, if_true]; rfl⟩

end StoredRun

namespace Orchestrator

variable {o : Orchestrator} {ops : List Operation} {id : Uuid} {time : Timestamp} {r : StoredRun}
  {s t : State} {record : FlowRun}

/-! ## Reading -/

theorem readFlowRun_eq_ok :
    o.readFlowRun id = .ok record ↔ ∃ r, o.find? id = some r ∧ r.record = record := by
  simp only [readFlowRun, flowRun?]
  cases o.find? id <;> simp

theorem readFlowRun_of_find? (h : o.find? id = some r) : o.readFlowRun id = .ok r.record :=
  readFlowRun_eq_ok.2 ⟨r, h, rfl⟩

/-! ## One proposal -/

/-- What is proposed for a run that is not there is not recorded anywhere. -/
theorem propose_of_unknown (h : o.find? id = none) : o.propose time id s =
    (.abort ("flow run " ++ id.toText ++ " does not exist"),
      { o with log := o.log ++ [(id, s.type)] }) := by
  have h' : { o with log := o.log ++ [(id, s.type)] }.find? id = none := h
  simp only [propose, h']

/-- A run that is there is never told to stop. -/
theorem propose_eq_abort :
    (∃ reason, (o.propose time id s).1 = .abort reason) ↔ o.find? id = none := by
  refine ⟨fun ⟨reason, ha⟩ => ?_, fun h => ⟨_, congrArg Prod.fst (propose_of_unknown h)⟩⟩
  cases hf : o.find? id with
  | none => rfl
  | some r =>
    have hrecorded := @StoredRun.recorded?_judge o.hold time r s
    rw [propose_of_find? hf] at ha
    rw [show (r.judge o.hold time s).1 = .abort reason from ha] at hrecorded
    cases hrecorded

theorem exists_find?_of_recorded? (h : (o.propose time id s).1.recorded? = some t) :
    ∃ r, o.find? id = some r := by
  cases hf : o.find? id with
  | none =>
    rw [propose_of_unknown hf] at h
    cases h
  | some r => exact ⟨r, rfl⟩

theorem eq_of_propose_accept (h : (o.propose time id s).1 = .accept t) : t = s := by
  obtain ⟨r, hf⟩ := exists_find?_of_recorded? (congrArg Answer.recorded? h)
  rw [propose_of_find? hf] at h
  exact StoredRun.eq_of_judge_accept h

/-- What an answer says was recorded is found afterwards. -/
theorem exists_find?_propose (h : (o.propose time id s).1.recorded? = some t) :
    ∃ r, (o.propose time id s).2.find? id = some r ∧ r.record.state = t := by
  obtain ⟨r, hf⟩ := exists_find?_of_recorded? h
  rw [propose_of_find? hf, StoredRun.recorded?_judge] at h
  exact ⟨_, find?_propose_self hf, Option.some.inj h⟩

/-- A run that is over is told the state that it ended in. -/
theorem exists_propose_of_isFinal (h : o.find? id = some r) (hf : r.record.state.isFinal) :
    ∃ reason, (o.propose time id s).1 = .reject r.record.state reason := by
  rw [propose_of_find? h]
  exact StoredRun.exists_judge_of_isFinal hf

/-- Under an identifier that is not used twice there is one run. -/
theorem eq_of_mem_stored (hids : o.ids.Nodup) (h : o.find? id = some r) {r' : StoredRun}
    (hm : r' ∈ o.stored) (hid : r'.record.id = id) : r' = r :=
  List.inj_on_of_nodup_map hids hm (List.mem_of_find?_eq_some h) (hid.trans (id_of_find? h).symm)

@[simp] theorem taskRuns_propose : (o.propose time id s).2.taskRuns = o.taskRuns := by
  simp only [propose]
  split <;> rfl

/-- **A proposal writes the state and the count of attempts of one run**, and nothing else. -/
theorem exists_flowRuns_propose (hids : o.ids.Nodup) : ∃ state runCount,
    (o.propose time id s).2.flowRuns =
      o.flowRuns.map fun r => if r.id = id then { r with state, runCount } else r := by
  simp only [flowRuns, List.map_map]
  cases hf : o.find? id with
  | none =>
    refine ⟨s, 0, ?_⟩
    rw [propose_of_unknown hf]
    refine List.map_congr_left fun r hm => ?_
    have hne : r.record.id ≠ id := fun h => find?_eq_none.1 hf (List.mem_map.2 ⟨r, hm, h⟩)
    simp only [Function.comp, if_neg hne]
  | some r =>
    have hr := id_of_find? hf
    rw [propose_of_find? hf]
    refine ⟨(r.judge o.hold time s).2.record.state, (r.judge o.hold time s).2.record.runCount, ?_⟩
    simp only [replace, List.map_map]
    refine List.map_congr_left fun r' hm => ?_
    simp only [Function.comp, StoredRun.id_judge, hr]
    by_cases hid : r'.record.id = id
    · obtain rfl := eq_of_mem_stored hids hf hm hid
      rw [if_pos hid, if_pos hid]
      exact StoredRun.record_judge
    · rw [if_neg hid, if_neg hid]

/-! ## Histories -/

/-- `o` is what a history leaves of a store without runs, when every run that is created gets an
identifier of its own. -/
def Reached (o : Orchestrator) (ops : List Operation) : Prop :=
  (created ops).Nodup ∧ ∃ empty : Orchestrator, empty.stored = [] ∧ o = empty.performAll ops

theorem Reached.ids (h : o.Reached ops) : o.ids = created ops := by
  obtain ⟨-, empty, he, rfl⟩ := h
  rw [ids_performAll, Orchestrator.ids, he]
  rfl

theorem Reached.find?_eq_none (h : o.Reached ops) : o.find? id = none ↔ id ∉ created ops := by
  rw [Orchestrator.find?_eq_none, h.ids]

/-- **The answer is the record, and the record of a run that is over stays as it is.** In a store
that a history led to, a proposal is answered with an abort exactly if its run was never created,
and then no record changes. What is accepted is what was proposed, and what is said to be recorded
is read afterwards. Of all records, a proposal changes the state and the count of attempts of one.
Once a record is final it is read unchanged after anything else that is asked of the store, and all
that is proposed for it is rejected with the state that it has. -/
theorem propose_of_reached (h : o.Reached ops) (id : Uuid) (time : Timestamp) (s : State) :
    ((∃ reason, (o.propose time id s).1 = .abort reason) ↔ id ∉ created ops) ∧
    (id ∉ created ops → (o.propose time id s).2.flowRuns = o.flowRuns) ∧
    (∀ t, (o.propose time id s).1 = .accept t → t = s) ∧
    (∀ t, (o.propose time id s).1.recorded? = some t →
      ∃ record, (o.propose time id s).2.readFlowRun id = .ok record ∧ record.state = t) ∧
    ((o.propose time id s).2.taskRuns = o.taskRuns ∧ ∃ state runCount,
      (o.propose time id s).2.flowRuns =
        o.flowRuns.map fun r => if r.id = id then { r with state, runCount } else r) ∧
    (∀ record, o.readFlowRun id = .ok record → record.state.isFinal → ∀ later,
      (o.performAll later).readFlowRun id = .ok record ∧
      ∀ time s, ∃ reason,
        ((o.performAll later).propose time id s).1 = .reject record.state reason) := by
  have hids : o.ids.Nodup := h.ids ▸ h.1
  rw [← h.find?_eq_none]
  refine ⟨propose_eq_abort, fun hn => ?_, fun t => eq_of_propose_accept, fun t ht => ?_,
    ⟨taskRuns_propose, exists_flowRuns_propose hids⟩, fun record hr hfinal later => ?_⟩
  · rw [propose_of_unknown hn]
    rfl
  · obtain ⟨r, hf, hstate⟩ := exists_find?_propose ht
    exact ⟨r.record, readFlowRun_of_find? hf, hstate⟩
  · obtain ⟨r, hf, rfl⟩ := readFlowRun_eq_ok.1 hr
    have hlater : (o.performAll later).find? id = some r := find?_performAll_of_isFinal hf hfinal
    exact ⟨readFlowRun_of_find? hlater, fun time s => exists_propose_of_isFinal hlater hfinal⟩

/-- A run is created, admitted and complete. -/
def completion : List Operation :=
  [.createFlowRun (.ofRun 0) default { flowName := "done", state := .pending default },
    .propose (.ofRun 0) default (.running default),
    .propose (.ofRun 0) default (.completed default)]

theorem propose_of_reached_completion :
    (∃ reason, ((performAll {} completion).propose default (.ofRun 1) (.running default)).1 =
      .abort reason) ∧
    ∃ reason, (((performAll {} completion).performAll
        [.propose (.ofRun 0) default (.retrying default)]).propose default (.ofRun 0)
          (.running default)).1 = .reject (.completed default) reason := by
  have hreached : (performAll {} completion).Reached completion := ⟨by decide, {}, rfl, rfl⟩
  obtain ⟨habort, -⟩ := propose_of_reached hreached (.ofRun 1) default (.running default)
  obtain ⟨-, -, -, -, -, hfinal⟩ :=
    propose_of_reached hreached (.ofRun 0) default (.running default)
  exact ⟨habort.2 (by decide), (hfinal _ rfl rfl _).2 default (.running default)⟩

end Orchestrator

end RunEngine
