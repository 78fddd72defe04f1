import RunEngine.Proofs.Attempts

/-!
# No run is left behind

A body may propose any states for its own run, so between the reports of its attempts the engine
does not know what the orchestrator has recorded. What cannot happen is that the count of attempts
goes down. Every report leaves the run over, or else it was a failure that is to be retried: then
the count, which was at most the number of retries, has gone up by one. So there are no more
attempts than that number allows, and the last report leaves the run over (`attempts_end`). The
engine is in step after a report, and nothing is proposed for a run that is over, so what its caller
gets is what was recorded.

**`runFlow_of_creates`** puts this together for a request that creates its run: with any parameters,
any body and any return type.
-/

namespace RunEngine

/-- Whether an invocation of the body of the run `id` comes to an end, and the count of attempts
stays below the largest number there is as what it proposes for the run is recorded. -/
def Visit.keepsCount (v : Visit) (body : Invoke) (hold : Nat) (id : Uuid) : Bool :=
  match v.run body, v.inside.client.stored? id with
  | some (_, left), some r => r.keepsCount hold v.inside.now (v.states left id)
  | _, _ => false

theorem Visit.exists_of_keepsCount {v : Visit} {body : Invoke} {hold : Nat} {id : Uuid}
    {r : StoredRun} (h : v.keepsCount body hold id) (hs : v.inside.client.stored? id = some r) :
    ∃ outcome left, v.run body = some (outcome, left) ∧
      r.keepsCount hold v.inside.now (v.states left id) := by
  simp only [keepsCount, hs] at h
  split at h
  · rename_i outcome left r' hrun hr
    cases hr
    exact ⟨outcome, left, hrun, h⟩
  · cases h

/-- The run is over, or an attempt is under way and `m` of them are enough to use up the
retries. -/
def StoredRun.Allows (r : StoredRun) (m : Nat) : Prop :=
  r.record.state.isFinal ∨
    r.record.state.isRunning ∧ 1 ≤ m ∧ r.policy.retries.toNat + 2 ≤ r.record.runCount.toNat + m

namespace Engine

variable {e : Engine} {w : World} {limit hold m : Nat} {id : Uuid} {r : StoredRun}
  {log : List StateType} {body : Invoke} {returnType : ReturnType}

@[simp] theorem policy_attempted {time : Timestamp} {states : List State}
    {outcome : Except Failure Json} :
    (e.attempted hold time r states outcome).policy = r.policy := by
  simp [attempted]

/-- What an attempt makes of a run: it is over, or it has used up one of its retries. -/
theorem attempted_cases (e : Engine) (outcome : Except Failure Json) {time : Timestamp}
    {states : List State} (hk : r.keepsCount hold time states) :
    (e.attempted hold time r states outcome).record.state.isFinal ∨
      outcome.isOk = false ∧
      (e.attempted hold time r states outcome).record.state.isRunning ∧
      r.record.runCount.toNat < (e.attempted hold time r states outcome).record.runCount.toNat ∧
      (e.attempted hold time r states outcome).record.runCount.toNat ≤
        r.policy.retries.toNat + 1 := by
  obtain ⟨hle, hlt⟩ := StoredRun.runCount_replay hk
  have htype := e.flow.type_report time outcome
  cases hok : outcome.isOk with
  | true =>
    rw [hok, if_pos rfl] at htype
    exact .inl (StoredRun.isFinal_judge_of_completed htype)
  | false =>
    rw [hok, if_neg (by simp)] at htype
    refine (StoredRun.judge_outcome (.inr htype)).imp_right ?_
    rintro ⟨hrunning, hretries, hcount⟩
    have hsucc := StoredRun.toNat_succ hlt
    rw [StoredRun.policy_replay, UInt32.le_iff_toNat_le] at hretries
    refine ⟨rfl, hrunning, ?_⟩
    simp only [attempted, hcount, hsucc]
    omega

/-- **Attempts come to an end, and leave the run over.** `m` bounds how many are still allowed. -/
theorem attempts_end (h : e.InStep w hold id r log) (hb : body.KeepsFrame)
    (hv : ∀ v ∈ e.visits body returnType limit w, v.keepsCount body hold id)
    (hr : r.Allows m) (hl : m < limit) : ∃ value e' r' log' left n,
      e.attempts body returnType limit w = some (.ok value, e', left) ∧
      e'.InStep left hold id r' log' ∧ r'.record.state.isFinal ∧
      (value.isSome → returnType = .result) ∧ w.Spends 0 n left ∧ n ≤ m := by
  -- The induction is on the fuel. A retry uses up one of the `m` attempts, whatever the body did.
  induction limit generalizing e w r log m with
  | zero => exact absurd hl (Nat.not_lt_zero m)
  | succ limit ih =>
    rcases hr with hfinal | ⟨hrunning, hm, hbudget⟩
    · have hnot : e.isRunning = false :=
        (h.drives.isRunning h.state).trans (State.isRunning_of_isFinal hfinal)
      exact ⟨none, e, r, log, w, 0, attempts_of_not_isRunning hnot (Nat.succ_pos limit), h, hfinal,
        by simp, (World.Passage.refl w).spends, Nat.zero_le m⟩
    · have hgo : e.isRunning := (h.drives.isRunning h.state).trans hrunning
      obtain ⟨scope, hs⟩ := Option.isSome_iff_exists.1 h.drives.scope
      obtain ⟨outcome, inside, hbody, hk⟩ :=
        Visit.exists_of_keepsCount (hv _ (visit_mem_visits hgo hs)) h.holds.stored?
      obtain ⟨e₁, w₁, he, hstep, hflow, hinv, hspends⟩ :=
        attempt_of_inStep h hb hs hbody (show 0 < limit by omega)
      replace hk : r.keepsCount hold w.now ((e.visit scope w).states inside id) := hk
      have hcases := attempted_cases e outcome hk
      rw [attempts_succ hgo he]
      by_cases hstop : outcome.toOption.isSome ∧ returnType = .result
      · -- A value ends the attempts at once; the run was over when it was reported.
        have hok : outcome.isOk := (isSome_toOption outcome).symm.trans hstop.1
        have hfinal := hcases.resolve_right fun hretry => by simp [hok] at hretry
        exact ⟨_, e₁, _, _, w₁, 1, if_pos hstop, hstep, hfinal, fun _ => hstop.2, hspends, hm⟩
      · rw [visits_succ hgo hs he, if_neg hstop] at hv
        have hallows : (e.attempted hold w.now r ((e.visit scope w).states inside id)
            outcome).Allows (m - 1) := by
          refine hcases.imp_right ?_
          rintro ⟨-, hrunning', hlt, hle⟩
          exact ⟨hrunning', by omega, by rw [policy_attempted]; omega⟩
        obtain ⟨value, e', r', log', left, n, hatt, hstep', hfinal, hvalue, hspends', hn⟩ :=
          ih hstep (fun v hm => hv v (List.mem_cons_of_mem _ hm)) hallows (by omega)
        exact ⟨value, e', r', log', left, 1 + n, (if_neg hstop).trans hatt, hstep', hfinal,
          hvalue, by simpa using hspends.trans hspends', by omega⟩

end Engine

/-! ## Requests -/

namespace World

variable {w : World} {limit hold : Nat} {flow : Flow} {request : RunRequest} {body : Body}

/-- **No run that is created is left behind.** A request that creates its run comes back with an
output or with the error of a failed run, and by then the run is over. Who asked for the state gets
the one that is stored. The run was proposed to run once more often than it was held back, and there
were no more attempts than the first and the retries. -/
theorem runFlow_of_creates (h : w.Creates request hold)
    (hv : ∀ v ∈ w.visits limit (body.invoke limit) flow request,
      v.keepsCount (body.invoke limit) hold w.nextRun)
    (hl : hold + 2 ≤ limit) (hr : flow.retries.toNat + 2 ≤ limit) :
    ∃ reply left r log, w.runFlow limit (body.invoke limit) flow request = some (reply, left) ∧
      ((∃ output, reply.outcome = .ok output) ∨
        ∃ type message cause, reply.outcome = .error (.run (.failed type message cause))) ∧
      reply.client.Holds hold w.nextRun r log ∧ r.record.state.isFinal ∧
      (request.options.returnType = .state → reply.outcome = .ok (.state r.record.state)) ∧
      (w.conduct left).countP Event.proposesRunning ≤ hold + 1 ∧
      (w.conduct left).countP Event.isInvocation ≤ flow.retries.toNat + 1 := by
  by_cases hp : flow.Accepts request.parameters
  · obtain ⟨e, r, admitted, hstep, hstate, hcount, hretries, hflow, -, -, hgo⟩ :=
      exists_admission h hp hl
    obtain ⟨hvisits, hreply⟩ := hgo (body.invoke limit)
    rw [hvisits] at hv
    have hallows : r.Allows (flow.retries.toNat + 1) := by
      refine .inr ⟨by rw [hstate]; rfl, by omega, ?_⟩
      rw [hcount, hretries, show (1 : UInt32).toNat = 1 from rfl]
      omega
    obtain ⟨value, e', r', log, left, n, hatt, hstep', hfinal, hvalue, hspends, hn⟩ :=
      Engine.attempts_end hstep (body.keepsFrame_invoke limit) hv hallows (by omega)
    obtain ⟨reply, w', hrun, hout, hholds, hspent⟩ := hreply _ _ _ _ _ _ hatt hstep' hspends
    refine ⟨reply, w', r', log, hrun, ?_, hholds, hfinal, ?_, Nat.le_of_eq hspent.conduct.1,
      hspent.conduct.2 ▸ hn⟩
    · rw [hout]
      cases value with
      | some value => exact .inl ⟨_, rfl⟩
      | none => exact RunOptions.resolution_of_isFinal hfinal
    · intro hs
      rw [hout]
      cases value with
      | some value => exact absurd (hvalue rfl) (by simp [hs])
      | none => exact RunOptions.resolution_state hs
  · obtain ⟨hvalid, invalid, hi⟩ := Flow.exists_of_not_accepts hp
    obtain ⟨reply, w', r, hrun, hout, hholds, hfinal, hspent⟩ :=
      exists_rejection (body.invoke limit) h hvalid hi (show 0 < limit by omega)
    refine ⟨reply, w', r, [.failed], hrun, ?_, hholds, hfinal, fun hs => ?_, ?_, ?_⟩
    · rw [hout]
      exact RunOptions.resolution_of_isFinal hfinal
    · rw [hout]
      exact RunOptions.resolution_state hs
    · rw [hspent.conduct.1]
      exact Nat.zero_le _
    · rw [hspent.conduct.2]
      exact Nat.zero_le _

/-- A flow that may be retried once. Its body proposes a retry of its own and then fails. -/
def meddling : Flow × Body :=
  ({ name := "meddling", retries := 1 }, fun _ _ =>
    .perform (.propose (.retrying default)) fun _ => .done (.error (.plain "meddled")))

theorem runFlow_of_creates_meddling : ∃ reply left r log,
    ({} : World).runFlow 3 (meddling.2.invoke 3) meddling.1 {} = some (reply, left) ∧
      reply.client.Holds 0 (.ofRun 0) r log ∧ r.record.state.isFinal ∧
      (({} : World).conduct left).countP Event.isInvocation ≤ 2 := by
  obtain ⟨reply, left, r, log, hrun, -, hholds, hfinal, -, -, hn⟩ :=
    @runFlow_of_creates {} 3 0 meddling.1 {} meddling.2
      ⟨rfl, _, rfl, rfl, _, rfl, ⟨⟨rfl, rfl, rfl, rfl, rfl⟩, rfl, rfl, rfl, rfl⟩, by simp⟩
      (by decide +kernel) (by decide) (by decide)
  exact ⟨reply, left, r, log, hrun, hholds, hfinal, hn⟩

end World

end RunEngine
