import RunEngine.Proofs.Permanence

/-!
# Counting attempts

An orchestrator in memory counts the attempts at a run, and goes by the count when a failed attempt
asks for the next one. It counts when it admits a run that was not running and when it grants a
retry. It does not count when a run that is not running is proposed to be RETRYING: that is
recorded like any other state, and yet it starts an attempt.

So the count is the number of attempts that were started, less those that were started in this way
(`runCount_exchanges`). Every retry that is granted raises a count that was no larger than the
number of retries, which leaves room for one retry too many if the count was zero at the first
(`countP_grantsRetry_le`), and it is zero only if the attempt that failed was not counted
(`countP_grantsRetry`).

**`readFlowRun_performAll`** says all this of a run that is created pending, whatever is proposed
for it. `readFlowRun_ungranted` is a run that is retried although it has no retries.
-/

namespace RunEngine

/-! ## What an exchange counts for -/

namespace Exchange

/-- Whether the run was running before. -/
def wasRunning (x : Exchange) : Bool := x.before.any fun r => r.state.isRunning

/-- Whether the run is running afterwards. -/
def isRunning (x : Exchange) : Bool := x.after.any fun r => r.state.isRunning

/-- Whether a failure was turned into a retry. -/
def grantsRetry (x : Exchange) : Bool :=
  x.proposed.type == .failed && x.answer.recorded?.any fun s => s.type == .retrying

/-- Whether an attempt was started: the run began to run, or it was granted a retry. -/
def startsAttempt (x : Exchange) : Bool := (x.isRunning && !x.wasRunning) || x.grantsRetry

/-- Whether an attempt was started by a proposal to be RETRYING. -/
def isUncounted (x : Exchange) : Bool := x.proposed.type == .retrying && x.startsAttempt

end Exchange

/-- What an exchange about a run does to the count of attempts. -/
inductive Tally (r r' : StoredRun) (x : Exchange) : Prop
  | idle : x.startsAttempt = false → x.grantsRetry = false →
      r'.record.runCount = r.record.runCount →
      (r'.record.state.isRunning → r.record.state.isRunning) → Tally r r' x
  | counted : x.startsAttempt → x.isUncounted = false → x.grantsRetry = false →
      r'.record.runCount = r.record.runCount + 1 → Tally r r' x
  | granted : x.startsAttempt → x.isUncounted = false → x.grantsRetry →
      r.record.state.isRunning → r.record.runCount ≤ r.policy.retries →
      r'.record.runCount = r.record.runCount + 1 → Tally r r' x
  | uncounted : x.startsAttempt → x.isUncounted → x.grantsRetry = false →
      r'.record.runCount = r.record.runCount → Tally r r' x

theorem State.type_of_isRunning {s : State} (h : s.isRunning) :
    s.type = .running ∨ s.type = .retrying := by
  simp only [State.isRunning] at h
  cases ht : s.type <;> simp_all [StateType.isRunning]

theorem State.type_ne_retrying {s : State} (h : s.isRunning = false) : s.type ≠ .retrying := by
  intro ht
  simp [State.isRunning, ht, StateType.isRunning] at h

namespace StoredRun

variable {hold : Nat} {r : StoredRun} {p : Timestamp × State} {ps : List (Timestamp × State)}

theorem grantsRetry_exchange : (r.exchange hold p).grantsRetry =
    (p.2.type == .failed && (r.judge hold p.1 p.2).2.record.state.type == .retrying) := by
  simp only [Exchange.grantsRetry, exchange, recorded?_judge, Option.any_some]

theorem startsAttempt_exchange : (r.exchange hold p).startsAttempt =
    ((r.judge hold p.1 p.2).2.record.state.isRunning && !r.record.state.isRunning ||
      (r.exchange hold p).grantsRetry) := rfl

theorem isUncounted_exchange : (r.exchange hold p).isUncounted =
    (p.2.type == .retrying && (r.exchange hold p).startsAttempt) := rfl

/-- **One proposal** for a run. -/
theorem tally_exchange : Tally r (r.judge hold p.1 p.2).2 (r.exchange hold p) := by
  have hv := verdict_judge hold p.1 r p.2
  have hgrants := @grantsRetry_exchange hold r p
  have hstarts := @startsAttempt_exchange hold r p
  have huncounted := @isUncounted_exchange hold r p
  generalize r.exchange hold p = x at hgrants hstarts huncounted ⊢
  generalize r.judge hold p.1 p.2 = v at hv hgrants hstarts ⊢
  rw [hgrants] at hstarts
  rw [hstarts] at huncounted
  cases hv with
  | ended reason hf =>
    have hr := State.isRunning_of_isFinal hf
    have hg : x.grantsRetry = false := by simp [hgrants, State.type_ne_retrying hr]
    exact .idle (by simp [hstarts, hr, State.type_ne_retrying hr]) hg rfl id
  | held reason hf ht hh =>
    have hp : ((State.pending p.1).withMessage "waiting for admission").isRunning = false := rfl
    have hg : x.grantsRetry = false := by simp [hgrants, ht]
    exact .idle (by simp [hstarts, put, hp, ht]) hg rfl fun h => absurd h (by simp [put, hp])
  | admitted hf ht hh =>
    have hp : p.2.isRunning := by simp [State.isRunning, ht, StateType.isRunning]
    have hg : x.grantsRetry = false := by simp [hgrants, ht]
    cases hr : r.record.state.isRunning with
    | true => exact .idle (by simp [hstarts, hr, ht]) hg (by simp [put]) fun _ => hr
    | false =>
      exact .counted (by simp [hstarts, put, hp, hr]) (by simp [huncounted, ht]) hg
        (by simp [put])
  | retried message reason hf ht hr hc =>
    have hg : x.grantsRetry := by
      simp [hgrants, ht, put, State.withMessage, State.retrying, State.ofType]
    exact .granted (by simp [hstarts, ← hgrants, hg]) (by simp [huncounted, ht]) hg hr hc rfl
  | recorded hf ht hm =>
    have hg : x.grantsRetry = false := by
      simp only [hgrants, put, Bool.and_eq_false_imp, beq_iff_eq]
      intro h
      simp [h]
    have hs : x.startsAttempt = (p.2.isRunning && !r.record.state.isRunning) := by
      rw [hstarts, ← hgrants, hg, Bool.or_false]
      rfl
    cases hx : x.startsAttempt with
    | false =>
      refine .idle hx hg rfl fun h => ?_
      simpa [show p.2.isRunning from h, hx] using hs
    | true =>
      rw [hx, eq_comm, Bool.and_eq_true] at hs
      have ht' := (State.type_of_isRunning hs.1).resolve_left ht
      exact .uncounted hx (by rw [huncounted, ← hstarts, hx, ht']; rfl) hg rfl

/-- An attempt that is started raises the count by one, unless it is not counted. -/
theorem runCount_exchange (h : r.record.runCount.toNat < maxRunCount) :
    (r.judge hold p.1 p.2).2.record.runCount.toNat +
        (if (r.exchange hold p).isUncounted then 1 else 0) =
      r.record.runCount.toNat + if (r.exchange hold p).startsAttempt then 1 else 0 := by
  have hsucc := toNat_succ h
  cases @tally_exchange hold r p with
  | idle hs hg hc hr => simp [Exchange.isUncounted, hs, hc]
  | counted hs hu hg hc => simp [hs, hu, hc, hsucc]
  | granted hs hu hg hr hle hc => simp [hs, hu, hc, hsucc]
  | uncounted hs hu hg hc => simp [hs, hu, hc]

/-! ## Several proposals -/

/-- The count stays below its limit for one more proposal, and goes up by one at most. -/
theorem runCount_judge_le (h : r.record.runCount.toNat + (p :: ps).length ≤ maxRunCount) :
    r.record.runCount.toNat < maxRunCount ∧
      (r.judge hold p.1 p.2).2.record.runCount.toNat + ps.length ≤ maxRunCount := by
  rw [List.length_cons] at h
  have hlt : r.record.runCount.toNat < maxRunCount := by omega
  have hstep := @runCount_exchange hold r p hlt
  refine ⟨hlt, ?_⟩
  split at hstep <;> split at hstep <;> omega

/-- **The count is the number of attempts that were started**, less those that are not counted. -/
theorem runCount_exchanges (h : r.record.runCount.toNat + ps.length ≤ maxRunCount) :
    (r.judgeAll hold ps).record.runCount.toNat +
        (r.exchanges hold ps).countP Exchange.isUncounted =
      r.record.runCount.toNat + (r.exchanges hold ps).countP Exchange.startsAttempt := by
  induction ps generalizing r with
  | nil => rfl
  | cons p ps ih =>
    obtain ⟨hlt, hle⟩ := @runCount_judge_le hold r p ps h
    have hstep := @runCount_exchange hold r p hlt
    have hrest := ih hle
    simp only [judgeAll_cons, exchanges_cons, List.countP_cons]
    omega

/-- Every retry that is granted raises a count that is no larger than the number of retries. -/
theorem countP_grantsRetry_le (h : r.record.runCount.toNat + ps.length ≤ maxRunCount) :
    (r.exchanges hold ps).countP Exchange.grantsRetry ≤
      r.policy.retries.toNat + 1 - r.record.runCount.toNat := by
  induction ps generalizing r with
  | nil => exact Nat.zero_le _
  | cons p ps ih =>
    obtain ⟨hlt, hle⟩ := @runCount_judge_le hold r p ps h
    have hrest := ih hle
    have hmono := @runCount_le_judge hold p.1 r p.2 hlt
    rw [policy_judge] at hrest
    rw [exchanges_cons, List.countP_cons]
    cases @tally_exchange hold r p with
    | idle _ hg | counted _ _ hg | uncounted _ _ hg =>
      rw [if_neg (by simp [hg])]
      omega
    | granted _ _ hg _ hretries hcount =>
      rw [UInt32.le_iff_toNat_le] at hretries
      rw [hcount, toNat_succ hlt] at hrest
      rw [if_pos hg]
      omega

/-- **No more retries are granted than there are**, if the attempt that is under way was counted,
except that an attempt that is not counted makes room for one more. -/
theorem countP_grantsRetry (h : r.record.runCount.toNat + ps.length ≤ maxRunCount)
    (hr : r.record.state.isRunning → 1 ≤ r.record.runCount.toNat) :
    (r.exchanges hold ps).countP Exchange.grantsRetry ≤
      r.policy.retries.toNat + min 1 ((r.exchanges hold ps).countP Exchange.isUncounted) := by
  induction ps generalizing r with
  | nil => exact Nat.zero_le _
  | cons p ps ih =>
    obtain ⟨hlt, hle⟩ := @runCount_judge_le hold r p ps h
    have hall := @countP_grantsRetry_le hold r (p :: ps) h
    have hrest := ih hle
    have hsucc := toNat_succ hlt
    rw [policy_judge] at hrest
    rw [exchanges_cons, List.countP_cons] at hall
    rw [exchanges_cons, List.countP_cons, List.countP_cons]
    cases @tally_exchange hold r p with
    | idle hs hg hc hrunning =>
      have hu : (r.exchange hold p).isUncounted = false := by simp [Exchange.isUncounted, hs]
      simp only [hg, hu, Bool.false_eq_true, if_false, Nat.add_zero]
      exact hrest fun hr' => hc ▸ hr (hrunning hr')
    | counted hs hu hg hc =>
      simp only [hg, hu, Bool.false_eq_true, if_false, Nat.add_zero]
      exact hrest fun _ => by rw [hc, hsucc]; exact Nat.le_add_left 1 _
    | granted hs hu hg hrunning hretries hc =>
      -- The attempt that failed was counted, so there is no room for one retry too many.
      have hone := hr hrunning
      omega
    | uncounted hs hu hg hc =>
      rw [if_pos hu]
      omega

/-- A run for which no attempt is started does not run. -/
theorem isRunning_judgeAll (hr : r.record.state.isRunning = false)
    (h : (r.exchanges hold ps).countP Exchange.startsAttempt = 0) :
    (r.judgeAll hold ps).record.state.isRunning = false := by
  induction ps generalizing r with
  | nil => exact hr
  | cons p ps ih =>
    rw [exchanges_cons, List.countP_cons, Nat.add_eq_zero_iff] at h
    refine ih ?_ h.1
    cases @tally_exchange hold r p with
    | idle _ _ _ hrunning => exact Bool.eq_false_iff.2 fun h => by simp [hrunning h] at hr
    | counted hs | granted hs | uncounted hs => simp [hs] at h

/-- A failure is accepted unless an attempt is under way. -/
theorem judge_accept_of_failed {s : State} {time : Timestamp}
    (hf : r.record.state.isFinal = false) (hr : r.record.state.isRunning = false)
    (ht : s.type = .failed) : (r.judge hold time s).1 = .accept s := by
  simp [judge, hf, ht, mayRetry, hr]

end StoredRun

/-! ## Stores -/

namespace Orchestrator

variable {o : Orchestrator} {ops : List Operation} {id : Uuid} {time : Timestamp}
  {request : FlowRunRequest}

/-- **The count of attempts and the retries that are granted.** A run is created pending, and then
anything is asked of the store, with no more proposals for the run than can be counted. Then the
count on record is the number of attempts that were started, less those that a proposal to be
RETRYING started. As long as no attempt was started and the run is not over, a failure is accepted.
Failures are turned into retries no more often than the policy of the run has retries, and if an
attempt was not counted, no more often than once more. -/
theorem readFlowRun_performAll (hnew : o.find? id = none) (hpending : request.state.type = .pending)
    (hlen : (proposalsFor id ops).length ≤ maxRunCount) :
    let store := (o.createFlowRun id time request).2
    let xs := (store.exchanges ops).filter (·.id == id)
    ∃ record, (store.performAll ops).readFlowRun id = .ok record ∧
      record.runCount.toNat + xs.countP Exchange.isUncounted = xs.countP Exchange.startsAttempt ∧
      (xs.countP Exchange.startsAttempt = 0 → record.state.isFinal = false →
        ∀ time s, s.type = .failed → ((store.performAll ops).propose time id s).1 = .accept s) ∧
      xs.countP Exchange.grantsRetry ≤
        request.policy.retries.toNat + min 1 (xs.countP Exchange.isUncounted) := by
  intro store xs
  obtain ⟨hfound, hxs⟩ := @find?_performAll_createFlowRun o ops id time request hnew
  have hidle : request.state.isRunning = false := by
    simp [State.isRunning, hpending, StateType.isRunning]
  rw [show xs = _ from hxs]
  refine ⟨_, readFlowRun_of_find? hfound, ?_, fun hnone hfinal time s hs => ?_, ?_⟩
  · rw [StoredRun.runCount_exchanges (by simpa [FlowRunRequest.record] using hlen)]
    simp [FlowRunRequest.record]
  · rw [propose_of_find? hfound]
    exact StoredRun.judge_accept_of_failed hfinal (StoredRun.isRunning_judgeAll hidle hnone) hs
  · refine StoredRun.countP_grantsRetry (by simpa [FlowRunRequest.record] using hlen) fun h => ?_
    rw [show request.state.isRunning = true from h] at hidle
    cases hidle

/-- A run is proposed to be RETRYING before it was admitted, and then fails. -/
def unadmitted : List Operation :=
  [.propose (.ofRun 0) default (.retrying default),
    .propose (.ofRun 0) default (.ofType default .failed)]

/-- A run that has no retries. -/
def unretried : FlowRunRequest := { flowName := "unretried", state := .pending default }

theorem readFlowRun_performAll_unadmitted :
    let store := (createFlowRun {} (.ofRun 0) default unretried).2
    let xs := (store.exchanges unadmitted).filter (·.id == .ofRun 0)
    xs.countP Exchange.isUncounted = 1 ∧ ∃ record,
      (store.performAll unadmitted).readFlowRun (.ofRun 0) = .ok record ∧
      record.runCount.toNat + 1 = 2 ∧ xs.countP Exchange.grantsRetry ≤ 1 := by
  intro store xs
  have huncounted : xs.countP Exchange.isUncounted = 1 := by decide +kernel
  have hstarted : xs.countP Exchange.startsAttempt = 2 := by decide +kernel
  obtain ⟨record, hread, hcount, -, hretries⟩ :=
    @readFlowRun_performAll {} unadmitted (.ofRun 0) default unretried rfl rfl (by decide)
  refine ⟨huncounted, record, hread, ?_, ?_⟩
  · rwa [← huncounted, ← hstarted]
  · rwa [huncounted] at hretries

/-- Two attempts were started and one was counted, so a run without retries is retried. -/
theorem readFlowRun_ungranted :
    let store := (createFlowRun {} (.ofRun 0) default unretried).2
    let xs := (store.exchanges unadmitted).filter (·.id == .ofRun 0)
    xs.countP Exchange.startsAttempt = 2 ∧
    ((store.performAll unadmitted).readFlowRun (.ofRun 0)).map (·.runCount) = .ok 1 ∧
    unretried.policy.retries = 0 ∧ xs.countP Exchange.grantsRetry = 1 := by
  decide +kernel

end Orchestrator

end RunEngine
