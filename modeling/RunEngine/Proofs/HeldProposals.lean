import RunEngine.Proofs.History

/-!
# Proposals that are held back

An orchestrator in memory is set up to hold back a number of proposals to run for each run that it
stores. Such a proposal is answered with PENDING, and the run is admitted later.

The number of proposals that were held back is kept beside the record of the run. It goes up when
an answer holds a proposal back and at no other time (`held_judge`), and a proposal is held back
exactly if it asks to run, the run is not over, and the number is still below the limit
(`holdsBack_judge`). So the number is that of the proposals to run that were made while the run
was not over, up to the limit (`held_judgeAll`). Whatever else is proposed may take the run to any
state in the meantime, and takes up no place (`judge_of_not_seeksAdmission`).

**`propose_admission`** says this of a run that is created in any state, whatever is asked of the
store.
-/

namespace RunEngine

/-! ## Being held back -/

/-- Whether an answer keeps a run pending in place of what was proposed. -/
def Answer.holdsBack : Answer → Bool
  | reject state _ => state.isPending
  | _ => false

namespace Exchange

/-- Whether a run that is not over was proposed to run. -/
def seeksAdmission (x : Exchange) : Bool :=
  x.proposed.type == .running && x.before.any fun r => !r.state.isFinal

/-- Whether the proposal was held back. -/
def isHeld (x : Exchange) : Bool := x.answer.holdsBack

end Exchange

theorem State.isPending_of_isFinal {s : State} (h : s.isFinal) : s.isPending = false := by
  rw [isFinal_eq, Bool.and_eq_true, Bool.not_eq_true'] at h
  exact h.1

namespace StoredRun

variable {hold : Nat} {time : Timestamp} {r : StoredRun} {s : State} {p : Timestamp × State}
  {ps : List (Timestamp × State)}

/-! ## One proposal -/

/-- Whether the state `s`, proposed for the run `r`, asks for the run to be admitted. -/
def seeksAdmission (r : StoredRun) (s : State) : Bool :=
  s.type == .running && !r.record.state.isFinal

theorem seeksAdmission_iff :
    r.seeksAdmission s ↔ s.type = .running ∧ r.record.state.isFinal = false := by
  simp [seeksAdmission]

theorem seeksAdmission_exchange :
    (r.exchange hold p).seeksAdmission = r.seeksAdmission p.2 := rfl

/-- A proposal is held back exactly if it asks for admission while the limit is not reached. -/
theorem holdsBack_judge :
    (r.judge hold time s).1.holdsBack = (r.seeksAdmission s && decide (r.held < hold)) := by
  have hv := verdict_judge hold time r s
  generalize r.judge hold time s = v at hv ⊢
  cases hv with
  | ended reason hf => simp [Answer.holdsBack, seeksAdmission, hf, State.isPending_of_isFinal hf]
  | held reason hf ht hh => simp [seeksAdmission, hf, ht, hh]; rfl
  | admitted hf ht hh => simp [Answer.holdsBack, hh]
  | retried message reason hf ht hr hc => simp [seeksAdmission, ht]; rfl
  | recorded hf ht hm => simp [Answer.holdsBack, seeksAdmission, ht]

/-- What is held back is counted, and nothing else is. -/
theorem held_judge : (r.judge hold time s).2.held =
    r.held + if (r.judge hold time s).1.holdsBack then 1 else 0 := by
  have hv := verdict_judge hold time r s
  generalize r.judge hold time s = v at hv ⊢
  cases hv with
  | ended reason hf => simp [Answer.holdsBack, State.isPending_of_isFinal hf]
  | held | admitted | retried | recorded => rfl

/-- What is held back does not start an attempt. -/
theorem runCount_judge_of_holdsBack (h : (r.judge hold time s).1.holdsBack) :
    (r.judge hold time s).2.record.runCount = r.record.runCount := by
  have hv := verdict_judge hold time r s
  generalize r.judge hold time s = v at h hv ⊢
  cases hv with
  | ended | held | recorded => rfl
  | admitted | retried => cases h

/-- What asks for admission is accepted once the limit is reached. -/
theorem judge_accept_of_seeksAdmission (h : r.seeksAdmission s) (hh : hold ≤ r.held) :
    (r.judge hold time s).1 = .accept s := by
  obtain ⟨ht, hf⟩ := seeksAdmission_iff.1 h
  simp [judge, ht, hf, Nat.not_lt.2 hh]

/-- What does not ask for admission takes up no place. -/
theorem judge_of_not_seeksAdmission (h : r.seeksAdmission s = false) :
    (r.judge hold time s).1.holdsBack = false ∧ (r.judge hold time s).2.held = r.held := by
  have hholds : (r.judge hold time s).1.holdsBack = false := by
    rw [holdsBack_judge, h, Bool.false_and]
  refine ⟨hholds, ?_⟩
  rw [held_judge, hholds]
  rfl

/-- The number of proposals that were held back goes up to its limit with each that asks for
admission. -/
theorem held_judge_eq_min (h : r.held ≤ hold) : (r.judge hold time s).2.held =
    min hold (r.held + if r.seeksAdmission s then 1 else 0) := by
  rw [held_judge, holdsBack_judge]
  cases r.seeksAdmission s with
  | false => simp [h]
  | true =>
    simp only [Bool.true_and, decide_eq_true_eq, if_true]
    split <;> omega

/-! ## Several proposals -/

/-- **The number of proposals that were held back** is that of the proposals that asked for
admission, up to the limit. -/
theorem held_judgeAll (h : r.held ≤ hold) : (r.judgeAll hold ps).held =
    min hold (r.held + (r.exchanges hold ps).countP Exchange.seeksAdmission) := by
  -- That the limit is never passed is what lets the number be read off a count that goes on.
  induction ps generalizing r with
  | nil => simp [h]
  | cons p ps ih =>
    have hstep := @held_judge_eq_min hold p.1 r p.2 h
    rw [judgeAll_cons, ih (by omega), hstep, exchanges_cons, List.countP_cons,
      seeksAdmission_exchange]
    omega

/-- The number is that of the answers that hold a proposal back. -/
theorem held_judgeAll_eq_countP : (r.judgeAll hold ps).held =
    r.held + (r.exchanges hold ps).countP Exchange.isHeld := by
  induction ps generalizing r with
  | nil => rfl
  | cons p ps ih =>
    rw [judgeAll_cons, ih, held_judge, exchanges_cons, List.countP_cons, Nat.add_assoc,
      Nat.add_comm (List.countP _ _)]
    rfl

end StoredRun

/-! ## Stores -/

namespace Orchestrator

variable {o : Orchestrator} {ops : List Operation} {id : Uuid} {time : Timestamp}
  {request : FlowRunRequest}

/-- **Exactly as many proposals are held back as the orchestrator is set up to hold.** A run is
created, in any state, and then anything is asked of the store. As many proposals for the run were
held back as asked for its admission, up to the limit. Of what is proposed next, a proposal to run
is held back if the run is not over and fewer proposals asked for its admission than are to be held
back, and accepted if the run is not over and the limit is reached. What is held back leaves the
count of attempts, and nothing else that is proposed, or that is proposed once the run is over,
takes up one of the places. -/
theorem propose_admission (hnew : o.find? id = none) :
    let created := (o.createFlowRun id time request).2
    let store := created.performAll ops
    let xs := (created.exchanges ops).filter (·.id == id)
    let sought := xs.countP Exchange.seeksAdmission
    xs.countP Exchange.isHeld = min o.hold sought ∧
    ∃ r, store.find? id = some r ∧ r.held = min o.hold sought ∧
    ∀ next s, ∃ r', (store.propose next id s).2.find? id = some r' ∧
      (s.type = .running → r.record.state.isFinal = false →
        ((store.propose next id s).1.holdsBack ↔ sought < o.hold) ∧
        (o.hold ≤ sought → (store.propose next id s).1 = .accept s)) ∧
      ((store.propose next id s).1.holdsBack → r'.record.runCount = r.record.runCount) ∧
      (s.type ≠ .running ∨ r.record.state.isFinal →
        (store.propose next id s).1.holdsBack = false ∧ r'.held = r.held) := by
  intro created store xs sought
  let first : StoredRun := { record := request.record id time, policy := request.policy }
  obtain ⟨hfound, hxs⟩ : store.find? id = some (first.judgeAll o.hold (proposalsFor id ops)) ∧
      xs = first.exchanges o.hold (proposalsFor id ops) := find?_performAll_createFlowRun hnew
  have hhold : store.hold = o.hold := hold_performAll
  have hheld : (first.judgeAll o.hold (proposalsFor id ops)).held = min o.hold sought := by
    rw [StoredRun.held_judgeAll (Nat.zero_le _), ← hxs]
    exact congrArg (min o.hold) (Nat.zero_add _)
  have hcount : xs.countP Exchange.isHeld = min o.hold sought := by
    rw [← hheld, StoredRun.held_judgeAll_eq_countP, ← hxs]
    exact (Nat.zero_add _).symm
  refine ⟨hcount, _, hfound, hheld, fun next s => ?_⟩
  generalize first.judgeAll o.hold (proposalsFor id ops) = r at hfound hheld ⊢
  have hanswer : (store.propose next id s).1 = (r.judge o.hold next s).1 := by
    rw [propose_of_find? hfound, hhold]
  rw [hanswer, find?_propose_self hfound, hhold]
  refine ⟨_, rfl, fun ht hf => ?_, StoredRun.runCount_judge_of_holdsBack, fun h => ?_⟩
  · have hseeks : r.seeksAdmission s := StoredRun.seeksAdmission_iff.2 ⟨ht, hf⟩
    refine ⟨?_, fun hh => StoredRun.judge_accept_of_seeksAdmission hseeks (by omega)⟩
    rw [StoredRun.holdsBack_judge, hseeks, Bool.true_and, decide_eq_true_iff]
    omega
  · refine StoredRun.judge_of_not_seeksAdmission ?_
    rcases h with h | h <;> simp [StoredRun.seeksAdmission, h]

/-- A run that is created RETRYING and has one retry. -/
def detainee : FlowRunRequest :=
  { flowName := "detainee", state := .retrying default, policy := { retries := 1 } }

/-- The run is held back, recorded as RETRYING, retried and held back again, and another run is
held back in the meantime. -/
def detention : List Operation :=
  [.propose (.ofRun 0) default (.running default),
    .createFlowRun (.ofRun 1) default { flowName := "other", state := .pending default },
    .propose (.ofRun 1) default (.running default),
    .propose (.ofRun 0) default (.retrying default),
    .propose (.ofRun 0) default (.ofType default .failed),
    .propose (.ofRun 0) default (.running default)]

/-- Where two proposals are held back for each run, the third is accepted. -/
theorem propose_admission_detention :
    let created := (createFlowRun { hold := 2 } (.ofRun 0) default detainee).2
    ((created.exchanges detention).filter (·.id == .ofRun 0)).countP Exchange.isHeld = 2 ∧
    ((created.performAll detention).propose default (.ofRun 0) (.running default)).1 =
      .accept (.running default) := by
  intro created
  have hsought : ((created.exchanges detention).filter (·.id == .ofRun 0)).countP
      Exchange.seeksAdmission = 2 := by decide +kernel
  have hgoing : ((created.performAll detention).find? (.ofRun 0)).all fun r =>
      !r.record.state.isFinal := by decide +kernel
  obtain ⟨hcount, r, hfound, -, hnext⟩ :=
    @propose_admission { hold := 2 } detention (.ofRun 0) default detainee rfl
  rw [show (created.performAll detention).find? (.ofRun 0) = some r from hfound] at hgoing
  obtain ⟨r', -, hrun, -⟩ := hnext default (.running default)
  obtain ⟨-, haccept⟩ := hrun rfl (by simpa using hgoing)
  exact ⟨hcount.trans (congrArg (min 2) hsought), haccept (Nat.le_of_eq hsought.symm)⟩

end Orchestrator

end RunEngine
