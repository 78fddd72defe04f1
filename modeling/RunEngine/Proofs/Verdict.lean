import RunEngine.Orchestrator

/-!
# What proposals do to a run

The orchestrator decides about a proposed state from what it has stored of the run and nothing
else. `Verdict` lists the ways it can decide, with everything that each of them records; every fact
about a proposal below is read off that list.

* **The answer is the record** (`recorded?_judge`): an answer names the state the run now has.
* **A run that is over stays as it is** (`judge_of_isFinal`).
* **Attempts only go up** (`runCount_replay`), as long as their number fits its 32 bits.
* **An outcome ends the run or costs a retry** (`judge_outcome`): a proposal to complete or to fail
  leaves the run over, unless it used up one of the attempts that the policy allows.

`replay` makes several proposals one after the other.
-/

namespace RunEngine

/-- The number of attempts that a record can no longer add to. -/
def maxRunCount : Nat := UInt32.size - 1

theorem State.isRunning_of_isFinal {s : State} (h : s.isFinal) : s.isRunning = false := by
  simp only [State.isFinal, State.isRunning] at h ⊢
  cases ht : s.type <;> simp_all [StateType.isFinal, StateType.isRunning]

theorem State.isFinal_of_isRunning {s : State} (h : s.isRunning) : s.isFinal = false := by
  cases hf : s.isFinal with
  | false => rfl
  | true => rw [isRunning_of_isFinal hf] at h; exact h.symm

/-- A run that is neither pending nor running is over. -/
theorem State.isFinal_eq (s : State) : s.isFinal = (!s.isPending && !s.isRunning) := by
  simp only [isFinal, isPending, isRunning]
  cases s.type <;> rfl

theorem State.isRunning_of_isPending {s : State} (h : s.isPending) : s.isRunning = false := by
  simp only [isPending, beq_iff_eq] at h
  rw [isRunning, h]
  rfl

namespace StoredRun

variable {hold : Nat} {time : Timestamp} {r : StoredRun} {s : State}

/-! ## Verdicts -/

/-- The ways the orchestrator can decide about the state `s` for the run `r`: its answer, and the
run afterwards. -/
inductive Verdict (hold : Nat) (time : Timestamp) (r : StoredRun) (s : State) :
    Answer × StoredRun → Prop
  | ended (reason : String) : r.record.state.isFinal →
      Verdict hold time r s (.reject r.record.state reason, r)
  | held (reason : String) : r.record.state.isFinal = false → s.type = .running → r.held < hold →
      Verdict hold time r s
        (.reject ((State.pending time).withMessage "waiting for admission") reason,
          { r.put ((State.pending time).withMessage "waiting for admission") r.record.runCount with
            held := r.held + 1 })
  | admitted : r.record.state.isFinal = false → s.type = .running → hold ≤ r.held →
      Verdict hold time r s (.accept s, r.put s
        (if r.record.state.isRunning then r.record.runCount else r.record.runCount + 1))
  | retried (message reason : String) : r.record.state.isFinal = false → s.type = .failed →
      r.record.state.isRunning → r.record.runCount ≤ r.policy.retries →
      Verdict hold time r s (.reject ((State.retrying time).withMessage message) reason,
        r.put ((State.retrying time).withMessage message) (r.record.runCount + 1))
  | recorded : r.record.state.isFinal = false → s.type ≠ .running →
      (s.type = .failed → r.mayRetry = false) →
      Verdict hold time r s (.accept s, r.put s r.record.runCount)

theorem verdict_judge (hold : Nat) (time : Timestamp) (r : StoredRun) (s : State) :
    Verdict hold time r s (r.judge hold time s) := by
  unfold judge
  by_cases hf : r.record.state.isFinal
  · simp only [hf, if_true]
    exact .ended _ hf
  · simp only [hf, Bool.false_eq_true, if_false]
    replace hf : r.record.state.isFinal = false := by simpa using hf
    split
    · rename_i ht
      by_cases hh : r.held < hold
      · simp only [hh, if_true]
        exact .held _ hf ht hh
      · simp only [hh, if_false]
        exact .admitted hf ht (Nat.le_of_not_lt hh)
    · rename_i ht
      by_cases hm : r.mayRetry
      · simp only [hm, if_true]
        obtain ⟨hr, hc⟩ : r.record.state.isRunning ∧ r.record.runCount ≤ r.policy.retries := by
          simpa [mayRetry] using hm
        exact .retried _ _ hf ht hr hc
      · simp only [hm]
        exact .recorded hf (by simp [ht]) fun _ => by simpa using hm
    · rename_i hr hfl
      exact .recorded hf hr fun h => absurd h hfl

/-! ## One proposal -/

@[simp] theorem id_judge : (r.judge hold time s).2.record.id = r.record.id := by
  have h := verdict_judge hold time r s
  generalize r.judge hold time s = v at h ⊢
  cases h <;> rfl

@[simp] theorem policy_judge : (r.judge hold time s).2.policy = r.policy := by
  have h := verdict_judge hold time r s
  generalize r.judge hold time s = v at h ⊢
  cases h <;> rfl

/-- **The answer is the record.** -/
theorem recorded?_judge :
    (r.judge hold time s).1.recorded? = some (r.judge hold time s).2.record.state := by
  have h := verdict_judge hold time r s
  generalize r.judge hold time s = v at h ⊢
  cases h <;> rfl

theorem judge_of_isFinal (h : r.record.state.isFinal) : (r.judge hold time s).2 = r := by
  simp [judge, h]

/-- A run that is not over is held back as often as the orchestrator is set up to. -/
theorem judge_held (hf : r.record.state.isFinal = false) (ht : s.type = .running)
    (hh : r.held < hold) : (r.judge hold time s).2 =
      { r.put ((State.pending time).withMessage "waiting for admission") r.record.runCount with
        held := r.held + 1 } := by
  simp [judge, hf, ht, hh]

theorem judge_admitted (hf : r.record.state.isFinal = false) (ht : s.type = .running)
    (hh : hold ≤ r.held) : (r.judge hold time s).2 = r.put s
      (if r.record.state.isRunning then r.record.runCount else r.record.runCount + 1) := by
  simp [judge, hf, ht, Nat.not_lt.2 hh]

theorem judge_completed (hf : r.record.state.isFinal = false) (ht : s.type = .completed) :
    (r.judge hold time s).2 = r.put s r.record.runCount := by
  simp [judge, hf, ht]

theorem judge_failed (hf : r.record.state.isFinal = false) (ht : s.type = .failed)
    (hm : r.mayRetry = false) : (r.judge hold time s).2 = r.put s r.record.runCount := by
  simp [judge, hf, ht, hm]

/-! ## Counting attempts -/

theorem toNat_succ {n : UInt32} (h : n.toNat < maxRunCount) : (n + 1).toNat = n.toNat + 1 := by
  rw [UInt32.toNat_add]
  have hsize : n.toNat + (1 : UInt32).toNat < 2 ^ 32 := by
    simp only [maxRunCount, UInt32.size] at h
    rw [show (1 : UInt32).toNat = 1 from rfl]
    omega
  exact Nat.mod_eq_of_lt hsize

theorem runCount_le_judge (h : r.record.runCount.toNat < maxRunCount) :
    r.record.runCount.toNat ≤ (r.judge hold time s).2.record.runCount.toNat := by
  have hs := toNat_succ h
  have hv := verdict_judge hold time r s
  generalize r.judge hold time s = v at hv ⊢
  cases hv with
  | ended | held | recorded => exact Nat.le_refl _
  | retried => simp only [put]; omega
  | admitted => simp only [put]; split <;> omega

/-- An outcome of an attempt ends the run, unless it is a failure that the policy turns into the
next attempt. -/
theorem judge_outcome (ht : s.type = .completed ∨ s.type = .failed) :
    (r.judge hold time s).2.record.state.isFinal ∨
      (r.judge hold time s).2.record.state.isRunning ∧
      r.record.runCount ≤ r.policy.retries ∧
      (r.judge hold time s).2.record.runCount = r.record.runCount + 1 := by
  have hv := verdict_judge hold time r s
  generalize r.judge hold time s = v at hv ⊢
  cases hv with
  | ended _ h => exact .inl h
  | held _ _ h | admitted _ h => simp [h] at ht
  | retried _ _ _ _ _ h => exact .inr ⟨rfl, h, rfl⟩
  | recorded =>
    refine .inl ?_
    rcases ht with h | h <;> simp [put, State.isFinal, h, StateType.isFinal]

/-- A run that is proposed to be complete is over. -/
theorem isFinal_judge_of_completed (ht : s.type = .completed) :
    (r.judge hold time s).2.record.state.isFinal := by
  have hv := verdict_judge hold time r s
  generalize r.judge hold time s = v at hv ⊢
  cases hv with
  | ended _ h => exact h
  | held _ _ h | admitted _ h | retried _ _ _ h => simp [h] at ht
  | recorded => simp [put, State.isFinal, ht, StateType.isFinal]

/-! ## Several proposals -/

/-- The run once these states were proposed for it, one after the other. -/
def replay (hold : Nat) (time : Timestamp) (r : StoredRun) (states : List State) : StoredRun :=
  states.foldl (fun r s => (r.judge hold time s).2) r

@[simp] theorem replay_nil : r.replay hold time [] = r := rfl

@[simp] theorem replay_cons {states : List State} : r.replay hold time (s :: states) =
    (r.judge hold time s).2.replay hold time states := rfl

theorem replay_append {as bs : List State} :
    r.replay hold time (as ++ bs) = (r.replay hold time as).replay hold time bs :=
  List.foldl_append

@[simp] theorem policy_replay {states : List State} :
    (r.replay hold time states).policy = r.policy := by
  induction states generalizing r with
  | nil => rfl
  | cons s states ih => rw [replay_cons, ih, policy_judge]

/-- Whether the count of attempts stays below the largest number there is, all the while these
states are proposed. -/
def keepsCount (hold : Nat) (time : Timestamp) (r : StoredRun) : List State → Bool
  | [] => r.record.runCount.toNat < maxRunCount
  | s :: states =>
    r.record.runCount.toNat < maxRunCount && keepsCount hold time (r.judge hold time s).2 states

/-- **Attempts only go up**, as long as their number stays below the largest there is. -/
theorem runCount_replay {states : List State} (h : r.keepsCount hold time states) :
    r.record.runCount.toNat ≤ (r.replay hold time states).record.runCount.toNat ∧
      (r.replay hold time states).record.runCount.toNat < maxRunCount := by
  induction states generalizing r with
  | nil => exact ⟨Nat.le_refl _, by simpa [keepsCount] using h⟩
  | cons s states ih =>
    simp only [keepsCount, Bool.and_eq_true, decide_eq_true_eq] at h
    obtain ⟨hle, hlt⟩ := ih h.2
    exact ⟨Nat.le_trans (runCount_le_judge h.1) hle, hlt⟩

end StoredRun

end RunEngine
