import RunEngine.Proofs.Driving

/-!
# When a driver hands a run back

A driver is to hand a run back when the run is over. It asks about that at two places: a proposal to
run is made again as long as the run is pending, and attempts are made as long as it is running. A
run that is put back to PENDING in answer to the report of an attempt passes by both: it is not
running, so no attempt is made, and the driver does not come back to the first loop.

So the state that is handed back is final, except exactly if it is the PENDING that was recorded for
the driver's last report (`PutBack`). The driver goes on at every other place (`GoesOn`): a run that
was proposed to run and left pending is proposed again, and one that is running is attempted.

**`runFlow_handsBack`** says so of every run with valid parameters, and `runFlow_putBack` is a run
that is handed back before it is over.
-/

namespace RunEngine

/-! ## Going on -/

/-- The engine goes on after an answer that leaves something to do: it proposes to run again if that
left the run pending, and makes an attempt if the run is running. Only a caller that is after the
result has its value when that was reported. -/
def GoesOn (returnType : ReturnType) : List Event → Prop
  | [] => True
  | event :: later =>
    (∀ id proposed answer s, event = .propose id proposed (.ok answer) →
      answer.recorded? = some s →
      (proposed.type = .running → s.isPending →
        ∃ answer', later.head? = some (.propose id proposed answer')) ∧
      ((proposed.type = .completed → returnType = .state) → s.isRunning →
        ∃ parameters, later.head? = some (.invoke parameters))) ∧
    GoesOn returnType later

variable {returnType : ReturnType} {own before after later : List Event} {event : Event}

namespace GoesOn

theorem cons (he : event.proposal? = none) (h : GoesOn returnType later) :
    GoesOn returnType (event :: later) := by
  refine ⟨?_, h⟩
  rintro id proposed answer s rfl
  cases he

theorem append (hb : ∀ e ∈ before, e.isClerical) (h : GoesOn returnType later) :
    GoesOn returnType (before ++ later) := by
  induction before with
  | nil => exact h
  | cons e before ih =>
    refine cons ?_ (ih fun x hx => hb x (List.mem_cons_of_mem e hx))
    have hc := hb e List.mem_cons_self
    simp only [Event.isClerical, Bool.and_eq_true, Option.isNone_iff_eq_none] at hc
    exact hc.2

theorem of_isClerical (h : ∀ e ∈ own, e.isClerical) : GoesOn returnType own := by
  rw [← List.append_nil own]
  exact append h trivial

/-- A proposal is followed by what its conclusion leaves to do. -/
theorem answered {answers : List (Except ClientError Answer)} {r : Except EngineError State}
    {id : Uuid} {proposed : State} (ha : Answered answers r) (h : GoesOn returnType later)
    (hpending : ∀ s, r = .ok s → proposed.type = .running → s.isPending →
      ∃ answer, later.head? = some (.propose id proposed answer))
    (hrunning : ∀ s, r = .ok s → (proposed.type = .completed → returnType = .state) →
      s.isRunning → ∃ parameters, later.head? = some (.invoke parameters)) :
    GoesOn returnType (answers.map (.propose id proposed) ++ later) := by
  induction ha with
  | accepted s | rejected s reason =>
    refine ⟨?_, h⟩
    rintro _ _ _ _ ⟨⟩ ⟨⟩
    exact ⟨hpending s rfl, hrunning s rfl⟩
  | aborted | failed =>
    refine ⟨?_, h⟩
    rintro _ _ _ _ ⟨⟩ ⟨⟩
  | again delay reason _ ih =>
    refine ⟨?_, ih hpending hrunning⟩
    rintro _ _ _ _ ⟨⟩ ⟨⟩

end GoesOn

variable {c : Course.Setting} {s : State} {conclusion : Except EngineError (Option Json × State)}

/-- A proposal is made. -/
theorem Answered.exists_head {answers : List (Except ClientError Answer)}
    {r : Except EngineError State} (h : Answered answers r) (id : Uuid) (proposed : State)
    (later : List Event) : ∃ answer, (answers.map (Event.propose id proposed) ++ later).head? =
      some (.propose id proposed answer) := by
  cases h <;> exact ⟨_, rfl⟩

theorem Admission.goesOn {time : Timestamp} {id : Uuid} {r : Except EngineError State}
    (h : Admission time id own r) (hl : GoesOn returnType later)
    (hrunning : ∀ s, r = .ok s → s.isRunning →
      ∃ parameters, later.head? = some (.invoke parameters)) :
    GoesOn returnType (own ++ later) ∧
      ∃ answer, (own ++ later).head? = some (.propose id (.running time) answer) := by
  induction h with
  | stopped ha =>
    refine ⟨hl.answered ha ?_ ?_, ha.exists_head ..⟩ <;> rintro _ ⟨⟩
  | admitted ha hs =>
    refine ⟨hl.answered ha ?_ fun s hr _ => hrunning s hr, ha.exists_head ..⟩
    rintro _ ⟨⟩ _ hp
    rw [hs] at hp
    cases hp
  | held ha hs _ ih =>
    obtain ⟨hgo, hagain⟩ := ih hrunning
    rw [List.append_assoc]
    refine ⟨hgo.answered ha (fun _ _ _ _ => hagain) ?_, ha.exists_head ..⟩
    rintro _ ⟨⟩ _ hr
    rw [State.isRunning_of_isPending hs] at hr
    cases hr

theorem GoesOn.attempt {outcome : Except Failure Json} {r : Except EngineError State}
    {answers : List (Except ClientError Answer)} (ha : Answered answers r)
    (hl : GoesOn c.returnType later)
    (hrunning : ∀ s, r = .ok s → (outcome.isOk → c.returnType = .state) → s.isRunning →
      ∃ parameters, later.head? = some (.invoke parameters)) :
    GoesOn c.returnType (c.attempt outcome answers ++ later) := by
  refine .cons rfl (.cons rfl (hl.answered ha ?_ fun s hr hstate => hrunning s hr ?_))
  · intro _ _ ht
    rw [Flow.type_report] at ht
    split at ht <;> cases ht
  · intro hok
    exact hstate (by rw [Flow.type_report, if_pos hok])

theorem Attempts.goesOn (h : Attempts c s own conclusion) (hl : GoesOn c.returnType later) :
    GoesOn c.returnType (own ++ later) ∧
      (s.isRunning → ∃ parameters, (own ++ later).head? = some (.invoke parameters)) := by
  induction h with
  | ended hs => exact ⟨hl, fun hr => by rw [hs] at hr; cases hr⟩
  | stopped _ ha => exact ⟨hl.attempt ha (by simp), fun _ => ⟨_, rfl⟩⟩
  | settled _ hreturn ha =>
    refine ⟨hl.attempt ha fun _ _ hstate => ?_, fun _ => ⟨_, rfl⟩⟩
    rw [hstate rfl] at hreturn
    cases hreturn
  | again _ _ ha _ ih =>
    rw [List.append_assoc]
    refine ⟨ih.1.attempt ha ?_, fun _ => ⟨_, rfl⟩⟩
    rintro _ ⟨⟩ _
    exact ih.2

theorem Course.goesOn (h : Course c own conclusion) (hl : GoesOn c.returnType later) :
    GoesOn c.returnType (own ++ later) := by
  cases h with
  | stopped hadm => exact (hadm.goesOn hl (by simp)).1
  | admitted hadm hatt =>
    obtain ⟨hgo, hrunning⟩ := hatt.goesOn hl
    rw [List.append_assoc]
    refine (hadm.goesOn hgo ?_).1
    rintro _ ⟨⟩
    exact hrunning

variable {flow : Flow} {request : RunRequest} {time : Timestamp}
  {outcome : Except EngineError RunOutput}

theorem Account.goesOn (h : Account flow request time own outcome) :
    GoesOn request.options.returnType own := by
  cases h with
  | refused hc => exact .of_isClerical hc
  | driven hb ha _ hcourse =>
    rw [List.append_assoc]
    exact .append hb (hcourse.goesOn (.of_isClerical ha))

/-! ## Handing back -/

/-- The engine proposed last that the attempt had this outcome, and the run was put back to PENDING
for that, in the state `s`. -/
def PutBack (flow : Flow) (time : Timestamp) (own : List Event) (attempt : Except Failure Json)
    (s : State) : Prop :=
  s.type = .pending ∧ ∃ id answer,
    lastProposal own = some (id, flow.report time attempt, .ok answer) ∧
    answer.recorded? = some s

/-- A run that is driven no further and not over was put back. -/
theorem LastWord.putBack {proposed : State} {id : Uuid} {answer : Except ClientError Answer}
    (h : LastWord flow time returnType proposed (.ok (none, s))) (hs : s.isFinal = false)
    (hlast : lastProposal own = some (id, proposed, answer))
    (hc : conclusion? answer = some (.ok s)) : ∃ attempt, PutBack flow time own attempt s ∧
      (returnType = .result → ∃ failure, attempt = .error failure) := by
  obtain ⟨hpending, attempt, rfl, hfailed⟩ := h.exists_report hs
  obtain ⟨answer, rfl, hrecorded⟩ := conclusion?_eq_ok.1 hc
  exact ⟨attempt, ⟨hpending, id, answer, hlast, hrecorded⟩, hfailed⟩

namespace RunOptions

variable {options : RunOptions}

theorem eq_of_concluded_state (hreturn : options.returnType = .state)
    (h : options.concluded conclusion = .ok (.state s)) : conclusion = .ok (none, s) := by
  rcases conclusion with error | ⟨value | value, t⟩
  · cases h
  · rw [concluded, resolution_state hreturn] at h
    cases h
    rfl
  · cases h

/-- That a run is not over is raised for such a run only, unless it is an error of the engine. -/
theorem exists_of_concluded_unfinished {t : StateType}
    (h : options.concluded conclusion = .error (.run (.unfinished t))) :
    conclusion = .error (.run (.unfinished t)) ∨
    options.raiseOnFailure ∧ ∃ s, conclusion = .ok (none, s) ∧ s.isFinal = false ∧ s.type = t := by
  rcases conclusion with error | ⟨value | value, s⟩
  · cases h
    exact .inl rfl
  · refine .inr ?_
    cases hreturn : options.returnType with
    | state =>
      rw [concluded, resolution_state hreturn] at h
      cases h
    | result =>
      rw [concluded, resolution_result hreturn, State.resolve] at h
      split at h
      · cases h
      · split at h
        · rename_i hraise
          cases h
          exact ⟨hraise.1, s, rfl, by simpa using hraise.2, rfl⟩
        · cases h
  · cases h

theorem resolution_of_pending (hreturn : options.returnType = .result)
    (hraise : options.raiseOnFailure) (hs : s.type = .pending) :
    options.resolution s = .error (.run (.unfinished .pending)) := by
  simp only [resolution_result hreturn, State.resolve, hraise, hs, State.isFinal]
  rfl

end RunOptions

/-- What went wrong with a client or was aborted is not that a run is not over. -/
theorem conclusion?_ne_unfinished {answer : Except ClientError Answer} {t : StateType} :
    conclusion? answer ≠ some (.error (.run (.unfinished t))) := by
  rcases answer with error | answer
  · simp [conclusion?]
  · cases answer <;> simp [conclusion?]

theorem Event.refusal?_ne_unfinished {t : StateType} :
    event.refusal? ≠ some (.run (.unfinished t)) := by
  rw [refusal?.eq_def]
  split <;> simp

namespace Account

/-- A run that was put back is handed back as it is. -/
theorem resolution_of_putBack {attempt : Except Failure Json}
    (h : Account flow request time own outcome) (hb : PutBack flow time own attempt s)
    (hfailed : request.options.returnType = .result → attempt.isOk = false) :
    outcome = request.options.resolution s := by
  obtain ⟨-, id, answer, hlast, hrecorded⟩ := hb
  rcases h.exists_lastProposal with ⟨_, -, hnone, -⟩ | ⟨_, _, _, conclusion, hlast', -, hc, rfl, hw⟩
  · rw [hnone] at hlast
    cases hlast
  · rw [hlast] at hlast'
    cases hlast'
    rw [conclusion?_eq_ok.2 ⟨answer, rfl, hrecorded⟩, Option.some_inj] at hc
    rcases conclusion with _ | ⟨value, t⟩ <;> cases hc
    rw [hw.eq_none fun hreturn => by simp [Flow.type_report, hfailed hreturn]]
    rfl

theorem state_iff (h : Account flow request time own outcome)
    (hreturn : request.options.returnType = .state) :
    outcome = .ok (.state s) ∧ s.isFinal = false ↔ ∃ attempt, PutBack flow time own attempt s := by
  constructor
  · rintro ⟨hstate, hs⟩
    rcases h.exists_lastProposal with ⟨_, herror, -⟩ | ⟨_, _, _, _, hlast, -, hc, hout, hw⟩
    · rw [hstate] at herror
      cases herror
    · obtain rfl := RunOptions.eq_of_concluded_state hreturn (hout.symm.trans hstate)
      obtain ⟨attempt, hb, -⟩ := hw.putBack hs hlast hc
      exact ⟨attempt, hb⟩
  · rintro ⟨attempt, hb⟩
    refine ⟨?_, by simp [State.isFinal, hb.1, StateType.isFinal]⟩
    rw [h.resolution_of_putBack hb (by simp [hreturn]), RunOptions.resolution_state hreturn]

theorem unfinished_iff (h : Account flow request time own outcome)
    (hreturn : request.options.returnType = .result) {t : StateType} :
    outcome = .error (.run (.unfinished t)) ↔ request.options.raiseOnFailure ∧ t = .pending ∧
      ∃ failure s, PutBack flow time own (.error failure) s := by
  constructor
  · intro hraised
    rcases h.exists_lastProposal with
      ⟨error, herror, -, e, -, hr⟩ | ⟨_, _, _, conclusion, hlast, -, hc, hout, hw⟩
    · rw [hraised] at herror
      cases herror
      exact absurd hr Event.refusal?_ne_unfinished
    · rcases RunOptions.exists_of_concluded_unfinished (hout.symm.trans hraised) with
        rfl | ⟨hraise, s, rfl, hs, rfl⟩
      · exact absurd hc conclusion?_ne_unfinished
      · obtain ⟨attempt, hb, hfailed⟩ := hw.putBack hs hlast hc
        obtain ⟨failure, rfl⟩ := hfailed hreturn
        exact ⟨hraise, hb.1, failure, s, hb⟩
  · rintro ⟨hraise, rfl, failure, s, hb⟩
    rw [h.resolution_of_putBack hb (fun _ => rfl),
      RunOptions.resolution_of_pending hreturn hraise hb.1]

end Account

namespace World

variable {w left : World} {limit : Nat} {body : Body} {reply : RunReply} {client : Client}

/-- **When a driver hands a run back.** A run for the state hands back a state that is not final
exactly if it is the one that was recorded as PENDING for the report of the last attempt, and a run
for the result raises that the run is not over exactly if that attempt failed. At every other
place the driver goes on. -/
theorem runFlow_handsBack (hp : flow.Accepts request.parameters)
    (hc : w.clientFor request.options = .ok client)
    (h : w.runFlow limit (body.invoke limit) flow request = some (reply, left)) :
    (request.options.returnType = .state → ∀ s,
      reply.outcome = .ok (.state s) ∧ s.isFinal = false ↔
        ∃ attempt, PutBack flow w.now (w.conduct left) attempt s) ∧
    (request.options.returnType = .result → ∀ t,
      reply.outcome = .error (.run (.unfinished t)) ↔
        request.options.raiseOnFailure ∧ t = .pending ∧
          ∃ failure s, PutBack flow w.now (w.conduct left) (.error failure) s) ∧
    GoesOn request.options.returnType (w.conduct left) := by
  have haccount := account_runFlow (body.keepsFrame_invoke limit) hp hc h
  exact ⟨fun hreturn s => haccount.state_iff hreturn,
    fun hreturn t => haccount.unfinished_iff hreturn, haccount.goesOn⟩

/-- A flow whose first attempt fails and whose next one succeeds. -/
def unsteady : Flow × Body := ({ name := "unsteady" }, fun n _ =>
  .done (if n = 0 then .error (.plain "not yet") else .ok (.int 1)))

/-- A request whose orchestrator puts the run back to PENDING after the first attempt. -/
def interrupted (returnType : ReturnType) : RunRequest :=
  { options :=
      { client := some (.inMemory
          { answers := [none, some (.ok (.reject (.pending default) "try again later"))] })
        returnType } }

theorem runFlow_handsBack_interrupted : ∃ reply left s attempt,
    ({} : World).runFlow 3 (unsteady.2.invoke 3) unsteady.1 (interrupted .state) =
      some (reply, left) ∧ reply.outcome = .ok (.state s) ∧
    PutBack unsteady.1 default (({} : World).conduct left) attempt s := by
  obtain ⟨hstate, -, -⟩ := @runFlow_handsBack unsteady.1 (interrupted .state) {} _ 3 unsteady.2 _ _
    (.inr ⟨_, rfl⟩) rfl rfl
  obtain ⟨attempt, hb⟩ := (hstate rfl _).1 ⟨rfl, rfl⟩
  exact ⟨_, _, _, attempt, rfl, rfl, hb⟩

/-- The run is handed back as PENDING, or as not being over, after one attempt of two. -/
theorem runFlow_putBack : unsteady.1.Accepts (interrupted .state).parameters ∧
    (∃ reply left s,
      ({} : World).runFlow 3 (unsteady.2.invoke 3) unsteady.1 (interrupted .state) =
        some (reply, left) ∧ reply.outcome = .ok (.state s) ∧ s.type = .pending ∧
      (({} : World).conduct left).countP Event.isInvocation = 1) ∧
    ∃ reply left,
      ({} : World).runFlow 3 (unsteady.2.invoke 3) unsteady.1 (interrupted .result) =
        some (reply, left) ∧ reply.outcome = .error (.run (.unfinished .pending)) :=
  ⟨.inr ⟨_, rfl⟩, ⟨_, _, _, rfl, rfl, rfl, rfl⟩, _, _, rfl, rfl⟩

end World

end RunEngine
