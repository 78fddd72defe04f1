import RunEngine.Proofs.Proposal

/-!
# How a run ends

What a caller gets is settled by the state the run is in and by what the caller asked for
(`RunOptions.resolution`). A run that is over resolves to an output or to the error of a failed run,
and to nothing else (`resolution_of_isFinal`).

Neither loop of the driver does anything for a run that was short-circuited, so such a run resolves
at once (`drive_of_shortCircuited`).
-/

namespace RunEngine

/-! ## Resolution -/

/-- A state is an error only if failures are to be raised: it is that of a failed or crashed run, or
of one that is not over. -/
theorem State.resolve_eq_error {s : State} {raise : Bool} {error : RunError}
    (h : s.resolve raise = .error error) : raise ∧
      ((∃ message cause, error = .failed s.type message cause) ∧
          (s.type = .failed ∨ s.type = .crashed) ∨
        error = .unfinished s.type ∧ s.isFinal = false) := by
  simp only [State.resolve] at h
  split at h
  · rename_i hf
    cases h
    exact ⟨hf.1, .inl ⟨⟨_, _, rfl⟩, hf.2⟩⟩
  · split at h
    · rename_i hf
      cases h
      exact ⟨hf.1, .inr ⟨rfl, by simpa using hf.2⟩⟩
    · cases h

namespace RunOptions

variable {options : RunOptions} {s : State}

/-- What a caller gets for a run that was left in the state `s`. -/
def resolution (options : RunOptions) (s : State) : Except EngineError RunOutput :=
  match options.returnType with
  | .state => .ok (.state s)
  | .result => ((s.resolve options.raiseOnFailure).mapError .run).map .ofData

theorem resolution_state (h : options.returnType = .state) :
    options.resolution s = .ok (.state s) := by
  simp only [resolution, h]

theorem resolution_result (h : options.returnType = .result) : options.resolution s =
    ((s.resolve options.raiseOnFailure).mapError .run).map .ofData := by
  simp only [resolution, h]

/-- **A run that is over resolves to an output or to the error of a failed run.** -/
theorem resolution_of_isFinal (h : s.isFinal) : (∃ output, options.resolution s = .ok output) ∨
    ∃ type message cause, options.resolution s = .error (.run (.failed type message cause)) := by
  cases hr : options.returnType with
  | state => exact .inl ⟨_, resolution_state hr⟩
  | result =>
    rw [resolution_result hr, State.resolve, h]
    by_cases hf : options.raiseOnFailure ∧ (s.type = .failed ∨ s.type = .crashed)
    · rw [if_pos hf]
      exact .inr ⟨_, _, _, rfl⟩
    · rw [if_neg hf, if_neg (by simp)]
      exact .inl ⟨_, rfl⟩

/-- Only a caller that is after the result gets an error for the state a run was left in. -/
theorem exists_run_of_resolution {error : EngineError} (h : options.resolution s = .error error) :
    options.returnType = .result ∧ ∃ runError,
      error = .run runError ∧ s.resolve options.raiseOnFailure = .error runError := by
  cases hr : options.returnType with
  | state =>
    rw [resolution_state hr] at h
    cases h
  | result =>
    rw [resolution_result hr] at h
    cases hs : s.resolve options.raiseOnFailure with
    | ok data =>
      rw [hs] at h
      cases h
    | error runError =>
      rw [hs] at h
      cases h
      exact ⟨rfl, runError, rfl, rfl⟩

theorem resolution_completedWith (h : options.returnType = .result) (time : Timestamp) (v : Json) :
    options.resolution (.completedWith time v) = .ok (.value (some v)) := by
  rw [resolution_result h]
  simp [State.resolve, State.completedWith, State.completed, State.withData, State.ofType,
    State.isFinal, StateType.isFinal]
  rfl

/-- A failed attempt is raised with its message. -/
theorem resolution_failed_raised (h : options.returnType = .result) (hr : options.raiseOnFailure)
    (time : Timestamp) (message : String) (payload : ErrorPayload) :
    options.resolution (.failed time message payload) =
      .error (.run (.failed .failed message (some payload))) := by
  rw [resolution_result h, hr]
  rfl

end RunOptions

namespace Engine

variable {e : Engine} {w : World} {limit : Nat} {s : State} {options : RunOptions} {body : Invoke}

theorem output_of_state? (h : e.state? = some s) : e.output options = options.resolution s := by
  cases hr : options.returnType with
  | state => simp only [output, RunOptions.resolution, hr, h]
  | result =>
    simp only [output, RunOptions.resolution, hr, result, h]
    cases s.resolve options.raiseOnFailure <;> rfl

/-! ## Rounds of the second loop -/

theorem attempts_succ {e' : Engine} {w' : World} {returnType : ReturnType} {value : Option Json}
    (hr : e.isRunning) (he : e.attempt body limit w = some (.ok value, e', w')) :
    e.attempts body returnType (limit + 1) w =
      if value.isSome ∧ returnType = .result then some (.ok value, e', w')
      else e'.attempts body returnType limit w' := by
  simp only [attempts, hr, he, Bool.not_true, Bool.false_eq_true, if_false]

theorem attempts_of_not_isRunning {returnType : ReturnType} (h : e.isRunning = false)
    (hl : 0 < limit) : e.attempts body returnType limit w = some (.ok none, e, w) := by
  obtain ⟨limit, rfl⟩ := Nat.exists_eq_add_one_of_ne_zero (Nat.ne_of_gt hl)
  simp [attempts, h]

theorem pos_of_drive {outcome : Except EngineError RunOutput} {e' : Engine} {w' : World}
    (h : e.drive limit body options w = some (outcome, e', w')) : 0 < limit := by
  cases limit with
  | zero => simp [drive, awaitAdmission] at h
  | succ limit => exact Nat.succ_pos limit

/-- **Nothing is done for a run that was short-circuited**, whatever state was recorded for it. -/
theorem drive_of_shortCircuited (h : e.standing = .shortCircuited s) (hs : e.state? = some s)
    (hl : 0 < limit) :
    e.drive limit body options w = some (options.resolution s, e, w) := by
  have hsc : e.isShortCircuited = true := by simp [isShortCircuited, h]
  have hawait : e.awaitAdmission options.backoff limit w = some (.ok (), e, w) := by
    obtain ⟨limit, rfl⟩ := Nat.exists_eq_add_one_of_ne_zero (Nat.ne_of_gt hl)
    simp [awaitAdmission, beginRun, setState, h, isPending, hsc]
  have hrun : e.isRunning = false := by simp [isRunning, hsc]
  simp only [drive, hawait, attempts_of_not_isRunning hrun hl, output_of_state? hs]

/-! ## Finishing -/

/-- To finish, an engine makes no call but the one that releases the client. -/
theorem client_finish (h : e.connected) : (e.finish w).2.client = w.client.close := by
  have hreport (w : World) (s : State) : (w.report s).client = w.client := by
    simp only [World.report]
    split <;> rfl
  simp only [finish, h, Bool.not_true, Bool.false_eq_true, if_false, World.close, World.record]
  split <;> split <;> simp [hreport, World.settle, World.record]

end Engine

end RunEngine
