import RunEngine.Proofs.Attempts

/-!
# The course of a run

What the engine of a run with valid parameters can do, told by its events. `Admission` and
`Attempts` are the two loops of the driver:

* **Admission.** The engine proposes to run. It proposes again if the run is recorded as pending,
  and goes on with any other state.
* **Attempts.** As long as the state is a running one, the body is invoked and its outcome is
  reported, and the state is the one that was recorded for the report. A value that was reported
  ends the attempts of a caller that is after the result.

A proposal is a list of answers, all but the last of them requests to wait (`Answered`). `Course` is
one loop after the other, and `Account` adds what comes before and after, up to the reply.

Of a course, the end is what a caller gets to see. It is a proposal, and the run is left in the
state that was recorded for it (`Course.exists_last`, **`Account.exists_lastProposal`**).
-/

namespace RunEngine

/-! ## The two loops -/

/-- The events of the first loop for the run `id`, and the state that it goes on with or the error
that it ends with. -/
inductive Admission (time : Timestamp) (id : Uuid) :
    List Event → Except EngineError State → Prop
  | stopped {answers : List (Except ClientError Answer)} {error : EngineError} :
      Answered answers (.error error) →
      Admission time id (answers.map (.propose id (.running time))) (.error error)
  | admitted {answers : List (Except ClientError Answer)} {s : State} :
      Answered answers (.ok s) → s.isPending = false →
      Admission time id (answers.map (.propose id (.running time))) (.ok s)
  | held {answers : List (Except ClientError Answer)} {s : State} {own : List Event}
      {conclusion : Except EngineError State} :
      Answered answers (.ok s) → s.isPending → Admission time id own conclusion →
      Admission time id (answers.map (.propose id (.running time)) ++ own) conclusion

/-- How a flow is driven: what its body is given, and what the caller is after. -/
structure Course.Setting where
  flow : Flow
  parameters : Parameters
  returnType : ReturnType
  time : Timestamp
  id : Uuid

namespace Course.Setting

/-- The events of an attempt. -/
def attempt (c : Course.Setting) (outcome : Except Failure Json)
    (answers : List (Except ClientError Answer)) : List Event :=
  .invoke c.parameters :: .returned outcome ::
    answers.map (.propose c.id (c.flow.report c.time outcome))

end Course.Setting

/-- The events of the second loop from the state `s` on. It ends with an error, or with the state
that was recorded last, and a value if that is what the caller is after. -/
inductive Attempts (c : Course.Setting) :
    State → List Event → Except EngineError (Option Json × State) → Prop
  | ended {s : State} : s.isRunning = false → Attempts c s [] (.ok (none, s))
  | stopped {s : State} {outcome : Except Failure Json}
      {answers : List (Except ClientError Answer)} {error : EngineError} :
      s.isRunning → Answered answers (.error error) →
      Attempts c s (c.attempt outcome answers) (.error error)
  | settled {s recorded : State} {value : Json} {answers : List (Except ClientError Answer)} :
      s.isRunning → c.returnType = .result → Answered answers (.ok recorded) →
      Attempts c s (c.attempt (.ok value) answers) (.ok (some value, recorded))
  | again {s recorded : State} {outcome : Except Failure Json}
      {answers : List (Except ClientError Answer)} {own : List Event}
      {conclusion : Except EngineError (Option Json × State)} :
      s.isRunning → (outcome.isOk → c.returnType = .state) → Answered answers (.ok recorded) →
      Attempts c recorded own conclusion →
      Attempts c s (c.attempt outcome answers ++ own) conclusion

/-- The events of both loops. -/
inductive Course (c : Course.Setting) :
    List Event → Except EngineError (Option Json × State) → Prop
  | stopped {own : List Event} {error : EngineError} :
      Admission c.time c.id own (.error error) → Course c own (.error error)
  | admitted {own own' : List Event} {s : State}
      {conclusion : Except EngineError (Option Json × State)} :
      Admission c.time c.id own (.ok s) → Attempts c s own' conclusion →
      Course c (own ++ own') conclusion

/-- What a caller gets for the end of a course. -/
def RunOptions.concluded (options : RunOptions) :
    Except EngineError (Option Json × State) → Except EngineError RunOutput
  | .error error => .error error
  | .ok (some value, _) => .ok (.value (some value))
  | .ok (none, s) => options.resolution s

/-- What the engine of a run with valid parameters did, and what its caller got. The run is the one
that was given, or that was created. -/
inductive Account (flow : Flow) (request : RunRequest) (time : Timestamp) :
    List Event → Except EngineError RunOutput → Prop
  /-- The engine was refused something before it could propose. -/
  | refused {own : List Event} {error : EngineError} :
      (∀ e ∈ own, e.isClerical) → (∃ e ∈ own, e.refusal? = some error) →
      Account flow request time own (.error error)
  | driven {before own after : List Event} {run : FlowRun} {parameters : Parameters}
      {conclusion : Except EngineError (Option Json × State)} :
      (∀ e ∈ before, e.isClerical) → (∀ e ∈ after, e.isClerical) →
      (request.options.flowRun = some run ∨ request.options.flowRun = none ∧
        ∃ r, .createFlowRun r (.ok run) ∈ before) →
      Course ⟨flow, parameters, request.options.returnType, time, run.id⟩ own conclusion →
      Account flow request time (before ++ own ++ after) (request.options.concluded conclusion)

/-! ## Ends of a course -/

/-- Admission ends with a proposal to run, and with a state that is not pending. -/
theorem Admission.exists_last {time : Timestamp} {id : Uuid} {own : List Event}
    {conclusion : Except EngineError State} (h : Admission time id own conclusion) :
    (∃ earlier answer, own = earlier ++ [.propose id (.running time) answer] ∧
      conclusion? answer = some conclusion) ∧
    ∀ s, conclusion = .ok s → s.isPending = false := by
  induction h with
  | stopped hans =>
    obtain ⟨earlier, last, rfl, hlast⟩ := hans.exists_last
    exact ⟨⟨_, last, List.map_append, hlast⟩, by simp⟩
  | admitted hans hs =>
    obtain ⟨earlier, last, rfl, hlast⟩ := hans.exists_last
    refine ⟨⟨_, last, List.map_append, hlast⟩, ?_⟩
    rintro _ ⟨⟩
    exact hs
  | held _ _ _ ih =>
    obtain ⟨⟨earlier, last, rfl, hlast⟩, hs⟩ := ih
    exact ⟨⟨_, last, (List.append_assoc ..).symm, hlast⟩, hs⟩

namespace Course.Setting

variable {c : Course.Setting} {outcome : Except Failure Json}
  {answers : List (Except ClientError Answer)} {r : Except EngineError State}

theorem exists_last (h : Answered answers r) : ∃ earlier answer,
    c.attempt outcome answers =
      earlier ++ [.propose c.id (c.flow.report c.time outcome) answer] ∧
    conclusion? answer = some r := by
  obtain ⟨earlier, last, rfl, hlast⟩ := h.exists_last
  refine ⟨c.attempt outcome earlier, last, ?_, hlast⟩
  rw [attempt, List.map_append]
  rfl

end Course.Setting

variable {c : Course.Setting} {own : List Event} {s : State}
  {conclusion : Except EngineError (Option Json × State)}

/-- Attempts end with the report of the last one. -/
theorem Attempts.exists_last (h : Attempts c s own conclusion) :
    own = [] ∧ conclusion = .ok (none, s) ∨
    ∃ earlier outcome answer,
      own = earlier ++ [.propose c.id (c.flow.report c.time outcome) answer] ∧
      conclusion? answer = some (conclusion.map (·.2)) ∧
      ∀ value t, conclusion = .ok (value, t) →
        value = if c.returnType = .result then outcome.toOption else none := by
  induction h with
  | ended => exact .inl ⟨rfl, rfl⟩
  | stopped _ hans =>
    obtain ⟨earlier, answer, hown, hlast⟩ := Course.Setting.exists_last hans
    exact .inr ⟨earlier, _, answer, hown, hlast, by simp⟩
  | settled _ hreturn hans =>
    obtain ⟨earlier, answer, hown, hlast⟩ := Course.Setting.exists_last hans
    refine .inr ⟨earlier, _, answer, hown, hlast, ?_⟩
    rintro _ _ ⟨⟩
    rw [if_pos hreturn]
    rfl
  | @again _ _ outcome _ _ _ _ hreturn hans _ ih =>
    refine .inr ?_
    rcases ih with ⟨rfl, rfl⟩ | ⟨earlier, outcome, answer, rfl, hlast, hvalue⟩
    · obtain ⟨earlier, answer, hown, hlast⟩ := Course.Setting.exists_last hans
      refine ⟨earlier, outcome, answer, by rw [List.append_nil, hown], hlast, ?_⟩
      rintro _ _ ⟨⟩
      cases outcome with
      | ok => rw [if_neg (by simp [hreturn rfl])]
      | error => split <;> rfl
    · exact ⟨_, outcome, answer, (List.append_assoc ..).symm, hlast, hvalue⟩

/-- Attempts that end without a value end with a state that is not running. -/
theorem Attempts.isRunning (h : Attempts c s own conclusion) {t : State}
    (ht : conclusion = .ok (none, t)) : t.isRunning = false := by
  induction h with
  | ended hs =>
    cases ht
    exact hs
  | stopped | settled => cases ht
  | again _ _ _ _ ih => exact ih ht

/-- What a course ends with when this was proposed last: a run that is not to be driven on is over
after a proposal to run, and over or pending after the report of an attempt. -/
inductive LastWord (flow : Flow) (time : Timestamp) (returnType : ReturnType) :
    State → Except EngineError (Option Json × State) → Prop
  | admission {conclusion : Except EngineError (Option Json × State)} :
      (∀ value t, conclusion = .ok (value, t) → value = none ∧ t.isFinal) →
      LastWord flow time returnType (.running time) conclusion
  | report {conclusion : Except EngineError (Option Json × State)}
      (attempt : Except Failure Json) :
      (∀ value t, conclusion = .ok (value, t) →
        (value = if returnType = .result then attempt.toOption else none) ∧
        (value = none → t.isRunning = false)) →
      LastWord flow time returnType (flow.report time attempt) conclusion

variable {flow : Flow} {time : Timestamp} {returnType : ReturnType}

/-- Only a caller that is after the result is handed a value, and only one that was reported. -/
theorem LastWord.eq_none {proposed : State} {value : Option Json}
    (h : LastWord flow time returnType proposed (.ok (value, s)))
    (hp : returnType = .result → proposed.type ≠ .completed) : value = none := by
  cases h with
  | admission hend => exact (hend value s rfl).1
  | report attempt hend =>
    rw [(hend value s rfl).1]
    cases returnType with
    | state => rfl
    | result =>
      cases attempt with
      | ok => exact absurd rfl (hp rfl)
      | error => rfl

/-- A run that is driven no further is over, or pending after a report. -/
theorem LastWord.exists_report {proposed : State}
    (h : LastWord flow time returnType proposed (.ok (none, s))) (hs : s.isFinal = false) :
    s.type = .pending ∧ ∃ attempt, proposed = flow.report time attempt ∧
      (returnType = .result → ∃ failure, attempt = .error failure) := by
  cases h with
  | admission hend =>
    rw [(hend none s rfl).2] at hs
    cases hs
  | report attempt hend =>
    obtain ⟨hvalue, hrunning⟩ := hend none s rfl
    rw [State.isFinal_eq, hrunning rfl] at hs
    refine ⟨by simpa [State.isPending] using hs, attempt, rfl, fun hreturn => ?_⟩
    rw [if_pos hreturn] at hvalue
    cases attempt with
    | ok => cases hvalue
    | error failure => exact ⟨failure, rfl⟩

/-- **The end of a course.** Its last event is a proposal, and what was recorded for that is the
state the run is left in. -/
theorem Course.exists_last (h : Course c own conclusion) : ∃ earlier proposed answer,
    own = earlier ++ [.propose c.id proposed answer] ∧
    conclusion? answer = some (conclusion.map (·.2)) ∧
    LastWord c.flow c.time c.returnType proposed conclusion := by
  cases h with
  | stopped hadm =>
    obtain ⟨⟨earlier, answer, rfl, hlast⟩, -⟩ := hadm.exists_last
    exact ⟨earlier, _, answer, rfl, hlast, .admission (by simp)⟩
  | admitted hadm hatt =>
    obtain ⟨⟨earlier, answer, rfl, hlast⟩, hpending⟩ := hadm.exists_last
    rcases hatt.exists_last with ⟨rfl, rfl⟩ | ⟨earlier', attempt, answer', rfl, hlast', hvalue⟩
    · refine ⟨earlier, _, answer, List.append_nil _, hlast, .admission ?_⟩
      rintro _ _ ⟨⟩
      exact ⟨rfl, by rw [State.isFinal_eq, hpending _ rfl, hatt.isRunning rfl]; rfl⟩
    · refine ⟨_, _, answer', (List.append_assoc ..).symm, hlast', .report attempt ?_⟩
      rintro value t rfl
      refine ⟨hvalue value t rfl, ?_⟩
      rintro rfl
      exact hatt.isRunning rfl

/-! ## Ends of an account -/

variable {request : RunRequest} {before after : List Event}
  {outcome : Except EngineError RunOutput}

/-- More preparations before and after are part of the same account. -/
theorem Account.between (h : Account flow request time own outcome)
    (hb : ∀ e ∈ before, e.isClerical) (ha : ∀ e ∈ after, e.isClerical) :
    Account flow request time (before ++ own ++ after) outcome := by
  cases h with
  | refused hc hr =>
    obtain ⟨e, he, hre⟩ := hr
    exact .refused (List.forall_mem_append.2 ⟨List.forall_mem_append.2 ⟨hb, hc⟩, ha⟩)
      ⟨e, List.mem_append_left _ (List.mem_append_right _ he), hre⟩
  | @driven before' own after' _ _ _ hb' ha' hrun hcourse =>
    rw [show before ++ (before' ++ own ++ after') ++ after =
      (before ++ before') ++ own ++ (after' ++ after) by simp only [List.append_assoc]]
    refine .driven (List.forall_mem_append.2 ⟨hb, hb'⟩) (List.forall_mem_append.2 ⟨ha', ha⟩)
      (hrun.imp_right ?_) hcourse
    rintro ⟨hnone, r, hm⟩
    exact ⟨hnone, r, List.mem_append_right _ hm⟩

/-- The last proposal, and its answer. -/
def lastProposal (own : List Event) : Option (Uuid × State × Except ClientError Answer) :=
  (own.filterMap Event.proposal?).getLast?

theorem lastProposal_concat {id : Uuid} {s : State} {answer : Except ClientError Answer} :
    lastProposal (own ++ [.propose id s answer]) = some (id, s, answer) := by
  simp [lastProposal, Event.proposal?]

theorem lastProposal_of_isClerical (h : ∀ e ∈ own, e.isClerical) : lastProposal own = none := by
  rw [lastProposal, filterMap_proposal?_of_isClerical h, List.getLast?_nil]

theorem lastProposal_between (hb : ∀ e ∈ before, e.isClerical) (ha : ∀ e ∈ after, e.isClerical) :
    lastProposal (before ++ own ++ after) = lastProposal own := by
  simp only [lastProposal, List.filterMap_append, filterMap_proposal?_of_isClerical hb,
    filterMap_proposal?_of_isClerical ha, List.nil_append, List.append_nil]

/-- **The end of an account.** An engine that came to propose concludes from the answer to its last
proposal. -/
theorem Account.exists_lastProposal (h : Account flow request time own outcome) :
    (∃ error, outcome = .error error ∧ lastProposal own = none ∧
      ∃ e ∈ own, e.refusal? = some error) ∨
    ∃ id proposed answer conclusion, lastProposal own = some (id, proposed, answer) ∧
      (∀ run, request.options.flowRun = some run → run.id = id) ∧
      conclusion? answer = some (conclusion.map (·.2)) ∧
      outcome = request.options.concluded conclusion ∧
      LastWord flow time request.options.returnType proposed conclusion := by
  cases h with
  | refused hc hr => exact .inl ⟨_, rfl, lastProposal_of_isClerical hc, hr⟩
  | @driven _ _ _ run _ _ hb ha hrun hcourse =>
    obtain ⟨earlier, proposed, answer, rfl, hlast, hend⟩ := hcourse.exists_last
    refine .inr ⟨run.id, proposed, answer, _, ?_, fun given hgiven => ?_, hlast, rfl, hend⟩
    · rw [lastProposal_between hb ha, lastProposal_concat]
    · rcases hrun with hrun | ⟨hnone, -⟩
      · rw [hrun] at hgiven
        cases hgiven
        rfl
      · rw [hnone] at hgiven
        cases hgiven

end RunEngine
