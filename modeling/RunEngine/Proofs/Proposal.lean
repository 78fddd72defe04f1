import RunEngine.Proofs.Frame

/-!
# Proposals of an engine

An engine makes a proposal again as long as it is asked to wait, and takes the first other answer
for the end of it. `Answered` lists what it may be told and what it concludes; it fits every client
that has only so many answers prepared (`exists_proposeUntilAnswered`).

An orchestrator in memory decides at once. An engine that drives a run such an orchestrator holds is
in step with it after every proposal: the state it has is the one that was recorded
(`setState_of_holds`).
-/

namespace RunEngine

/-- The answers to a proposal, and what an engine concludes from them: the state that was recorded,
or why there is none. -/
inductive Answered : List (Except ClientError Answer) → Except EngineError State → Prop
  | accepted (s : State) : Answered [.ok (.accept s)] (.ok s)
  | rejected (s : State) (reason : String) : Answered [.ok (.reject s reason)] (.ok s)
  | aborted (reason : String) : Answered [.ok (.abort reason)] (.error (.aborted reason))
  | failed (error : ClientError) : Answered [.error error] (.error (.client error))
  | again {answers : List (Except ClientError Answer)} {r : Except EngineError State}
      (delay : Binary64) (reason : String) : Answered answers r →
      Answered (.ok (.wait delay reason) :: answers) r

/-- What an engine concludes from an answer, unless it is a request to wait. -/
def conclusion? : Except ClientError Answer → Option (Except EngineError State)
  | .ok (.accept s) => some (.ok s)
  | .ok (.reject s _) => some (.ok s)
  | .ok (.wait ..) => none
  | .ok (.abort reason) => some (.error (.aborted reason))
  | .error error => some (.error (.client error))

theorem conclusion?_eq_ok {answer : Except ClientError Answer} {s : State} :
    conclusion? answer = some (.ok s) ↔ ∃ a, answer = .ok a ∧ a.recorded? = some s := by
  cases answer with
  | error => simp [conclusion?]
  | ok a => cases a <;> simp [conclusion?, Answer.recorded?]

/-- The last answer to a proposal is the one that concludes it. -/
theorem Answered.exists_last {answers : List (Except ClientError Answer)}
    {r : Except EngineError State} (h : Answered answers r) :
    ∃ earlier last, answers = earlier ++ [last] ∧ conclusion? last = some r := by
  induction h with
  | accepted | rejected | aborted | failed => exact ⟨[], _, rfl, rfl⟩
  | again delay reason _ ih =>
    obtain ⟨earlier, last, rfl, hlast⟩ := ih
    exact ⟨_ :: earlier, last, rfl, hlast⟩

namespace Engine

variable {e e' : Engine} {w w' : World} {limit hold : Nat} {id : Uuid} {s : State} {run : FlowRun}
  {r : StoredRun} {log : List StateType}

/-! ## Any client -/

/-- **A proposal is made again after requests to wait only**, and comes to an end within the answers
that the client has prepared. -/
theorem exists_proposeUntilAnswered (h : w.client.patience < limit) :
    ∃ answers conclusion w', proposeUntilAnswered id s limit w = some (conclusion, w') ∧
      Answered answers conclusion ∧ w.Passage (answers.map (.propose id s)) w' := by
  induction limit generalizing w with
  | zero => exact absurd h (Nat.not_lt_zero _)
  | succ limit ih =>
    have hp := w.passage_propose id s
    have hw := @Client.patience_lt_of_wait w.client w.now id s
    simp only [proposeUntilAnswered]
    split <;> rename_i heq <;> rw [heq] at hp
    · exact ⟨_, _, _, rfl, .accepted _, hp⟩
    · exact ⟨_, _, _, rfl, .rejected _ _, hp⟩
    · -- The request to wait used up an answer, so there is fuel for those that are left.
      rename_i delay reason left
      have hlt : left.client.patience < limit := by
        have hleft : left.client.patience < w.client.patience := by
          rw [← congrArg (fun p => p.2.client) heq]
          exact hw (congrArg Prod.fst heq)
        omega
      obtain ⟨answers, conclusion, w', he, ha, hpass⟩ :=
        ih (w := left.sleep (Delay.milliseconds delay)) hlt
      exact ⟨_, conclusion, w', he, .again delay reason ha,
        (hp.trans (World.passage_sleep ..)).trans hpass⟩
    · exact ⟨_, _, _, rfl, .aborted _, hp⟩
    · exact ⟨_, _, _, rfl, .failed _, hp⟩

/-- Whatever a proposal came to, the answers to it led there. -/
theorem answered_of_proposeUntilAnswered {r : Except EngineError State}
    (h : proposeUntilAnswered id s limit w = some (r, w')) :
    ∃ answers, Answered answers r ∧ w.Passage (answers.map (.propose id s)) w' := by
  induction limit generalizing w with
  | zero => simp [proposeUntilAnswered] at h
  | succ limit ih =>
    have hp := w.passage_propose id s
    simp only [proposeUntilAnswered] at h
    split at h <;> rename_i heq <;> rw [heq] at hp
    case h_3 =>
      obtain ⟨answers, hans, hp'⟩ := ih h
      exact ⟨_, .again _ _ hans, (hp.trans (World.passage_sleep ..)).trans hp'⟩
    all_goals cases h
    · exact ⟨_, .accepted _, hp⟩
    · exact ⟨_, .rejected _ _, hp⟩
    · exact ⟨_, .aborted _, hp⟩
    · exact ⟨_, .failed _, hp⟩

/-- The engine once a proposal came to its end. -/
def conclude (e : Engine) : Except EngineError State → Engine
  | .ok recorded => e.apply recorded
  | .error _ => e

theorem exists_setState (ha : e.standing = .active) (hc : e.connected) (hr : e.record = some run)
    (h : w.client.patience < limit) : ∃ answers conclusion w',
      e.setState limit w s = some (conclusion, e.conclude conclusion, w') ∧
      Answered answers conclusion ∧ w.Passage (answers.map (.propose run.id s)) w' := by
  obtain ⟨answers, conclusion, w', he, hans, hp⟩ :=
    @exists_proposeUntilAnswered w limit run.id s h
  refine ⟨answers, conclusion, w', ?_, hans, hp⟩
  simp only [setState, ha, hc, hr, he, Bool.not_true, Bool.false_eq_true, if_false]
  cases conclusion <;> rfl

/-! ## Runs that an orchestrator in memory holds -/

theorem proposeUntilAnswered_of_holds (h : w.client.Holds hold id r log) (hl : 0 < limit) :
    proposeUntilAnswered id s limit w =
      some (.ok (r.judge hold w.now s).2.record.state, (w.propose id s).2) := by
  obtain ⟨limit, rfl⟩ := Nat.exists_eq_add_one_of_ne_zero (Nat.ne_of_gt hl)
  have ha : (w.propose id s).1 = .ok (r.judge hold w.now s).1 := h.propose.1
  have hs := @StoredRun.recorded?_judge hold w.now r s
  generalize (r.judge hold w.now s).1 = answer at ha hs
  simp only [proposeUntilAnswered]
  split <;> rename_i heq <;> rw [heq] at ha <;> cases ha <;> cases hs <;> rw [heq]

/-- An engine that drives the run `id`: it is started, its run is not short-circuited, and it has
the scope that the body is invoked in. -/
structure Drives (e : Engine) (id : Uuid) : Prop where
  connected : e.connected = true
  active : e.standing = .active
  record : ∃ run, e.record = some run ∧ run.id = id
  scope : e.scope.isSome

theorem Drives.apply (h : e.Drives id) (s : State) : (e.apply s).Drives id where
  connected := h.connected
  active := h.active
  record := by
    obtain ⟨run, hr, rfl⟩ := h.record
    exact ⟨{ run with state := s }, by simp [Engine.apply, hr], rfl⟩
  scope := by simpa [Engine.apply] using h.scope

theorem state?_apply (h : e.record = some run) : (e.apply s).state? = some s := by
  simp [state?, Engine.apply, h]

theorem Drives.state?_apply (h : e.Drives id) : (e.apply s).state? = some s := by
  obtain ⟨run, hr, -⟩ := h.record
  exact Engine.state?_apply hr

/-- **The engine takes over what was recorded.** -/
theorem setState_of_holds (ha : e.standing = .active) (hc : e.connected)
    (hr : e.record = some run) (h : w.client.Holds hold run.id r log) (hl : 0 < limit) :
    e.setState limit w s = some (.ok (r.judge hold w.now s).2.record.state,
      e.apply (r.judge hold w.now s).2.record.state, (w.propose run.id s).2) := by
  simp only [setState, ha, hc, hr, proposeUntilAnswered_of_holds h hl, Bool.not_true,
    Bool.false_eq_true, if_false]

theorem Drives.setState (he : e.Drives id) (h : w.client.Holds hold id r log) (hl : 0 < limit) :
    e.setState limit w s = some (.ok (r.judge hold w.now s).2.record.state,
      e.apply (r.judge hold w.now s).2.record.state, (w.propose id s).2) := by
  obtain ⟨run, hr, rfl⟩ := he.record
  exact setState_of_holds he.active he.connected hr h hl

theorem Drives.answered (he : e.Drives id) {r : Except EngineError State}
    (h : e.setState limit w s = some (r, e', w')) :
    (∃ answers, Answered answers r ∧ w.Passage (answers.map (.propose id s)) w') ∧
      e' = e.conclude r := by
  obtain ⟨run, hr, rfl⟩ := he.record
  simp only [Engine.setState, he.active, he.connected, hr, Bool.not_true, Bool.false_eq_true,
    if_false] at h
  split at h <;> cases h <;> rename_i heq <;> exact ⟨answered_of_proposeUntilAnswered heq, rfl⟩

/-- The run after a proposal, and what the engine did. -/
theorem holds_propose (h : w.client.Holds hold id r log) (s : State) :
    (w.propose id s).2.client.Holds hold id (r.judge hold w.now s).2 (log ++ [s.type]) ∧
      w.Passage [.propose id s (.ok (r.judge hold w.now s).1)] (w.propose id s).2 := by
  refine ⟨h.propose.2, ?_⟩
  have hp := w.passage_propose id s
  rwa [show (w.propose id s).1 = .ok (r.judge hold w.now s).1 from h.propose.1] at hp

end Engine

end RunEngine
