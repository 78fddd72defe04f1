import RunEngine.Proofs.Frame

/-!
# Invocations of a body

A body is a function of how often it was invoked before, of the parameters and of the world it
finds. What a theorem asks of a body it asks of the invocations that a request makes
(`World.visits`), so that it holds for bodies that would do something else in a world that the
request never comes to.

However the two loops of the driver go, it only does three things with its engine: it has it propose
states, it waits, and it invokes the body. `Driven` is what comes of an engine in this way, with the
invocations on the way, and **`driven_drive`** says that the driver is a case of it, with the
invocations of the list. A fact about a whole run then needs one lemma for each kind of step. One
such fact is that the journal shows the invocations of the list, one by one, each with what it was
given and what it came to (`filter_isOfBody_conduct`).
-/

namespace RunEngine

/-- An invocation of a body: how often it was invoked before, what it is given, and the world it
finds. -/
structure Visit where
  invoked : Nat
  parameters : Parameters
  inside : World

namespace Visit

/-- What comes of an invocation. -/
def run (v : Visit) (body : Invoke) : Option (Except Failure Json × World) :=
  body v.invoked v.parameters v.inside

/-- The states that are proposed for the run `id` from an invocation to the world `left`. -/
def states (v : Visit) (left : World) (id : Uuid) : List State :=
  v.inside.client.statesSince left.client id

/-- What the journal shows of an invocation: what the body is given, and what it comes to. -/
def events (body : Invoke) (v : Visit) : List Event :=
  .invoke v.parameters ::
    match v.run body with
    | some (outcome, _) => [.returned outcome]
    | none => []

end Visit

/-- The invocation that an engine is about to make. -/
def Engine.visit (e : Engine) (scope : Scope) (w : World) : Visit :=
  { invoked := e.invocations, parameters := e.parameters, inside := e.enter scope w }

/-- The invocations of a body in the attempts of an engine. -/
def Engine.visits (body : Invoke) (returnType : ReturnType) :
    (limit : Nat) → Engine → World → List Visit
  | 0, _, _ => []
  | limit + 1, e, w =>
    match e.isRunning, e.scope with
    | true, some scope =>
      e.visit scope w :: match e.attempt body limit w with
        | some (.ok value, e, w) =>
          if value.isSome ∧ returnType = .result then [] else visits body returnType limit e w
        | _ => []
    | _, _ => []

/-- The invocations of a body while its run is driven. -/
def Engine.driveVisits (limit : Nat) (body : Invoke) (options : RunOptions) (e : Engine)
    (w : World) : List Visit :=
  match e.awaitAdmission options.backoff limit w with
  | some (.ok (), e, admitted) => e.visits body options.returnType limit admitted
  | _ => []

/-- The invocations of a body in all that an engine does. -/
def Engine.allVisits (limit : Nat) (body : Invoke) (options : RunOptions) (e : Engine) (w : World) :
    List Visit :=
  match e.start limit w with
  | some (.ok (), e, started) =>
    if e.scope.isNone then [] else e.driveVisits limit body options started
  | _ => []

/-- The invocations of a body in the course of a request. -/
def World.visits (limit : Nat) (body : Invoke) (flow : Flow) (request : RunRequest) (w : World) :
    List Visit :=
  match w.clientFor request.options with
  | .error _ => []
  | .ok client =>
    match { w with client }.board request.entry with
    | (.error _, _) => []
    | (.ok (), entered) => (engineFor flow request).allVisits limit body request.options entered

/-! ## Invocations on the way from one world to another -/

namespace World

variable {w w' w'' left : World} {vs vs' : List Visit} {request : RunRequest} {body : Invoke}

/-- `w'` comes after `w`, and in between the engine at the depth of `w` invoked its body as `vs`
says. -/
def Invokes (w : World) (body : Invoke) (vs : List Visit) (w' : World) : Prop :=
  ∃ own, w.Passage own w' ∧ own.filter Event.isOfBody = vs.flatMap (Visit.events body)

theorem Invokes.trans (h : w.Invokes body vs w') (h' : w'.Invokes body vs' w'') :
    w.Invokes body (vs ++ vs') w'' := by
  obtain ⟨own, hp, hv⟩ := h
  obtain ⟨own', hp', hv'⟩ := h'
  exact ⟨own ++ own', hp.trans hp', by rw [List.filter_append, List.flatMap_append, hv, hv']⟩

theorem Invokes.alight {client : Client} (hc : w.clientFor request.options = .ok client)
    (h : { w with client }.Invokes body vs left) :
    w.Invokes body vs (w.alight request left) := by
  obtain ⟨own, hp, hv⟩ := h
  exact ⟨own, hp.alight hc, hv⟩

theorem Invokes.conduct (h : w.Invokes body vs w') :
    (w.conduct w').filter Event.isOfBody = vs.flatMap (Visit.events body) := by
  obtain ⟨own, hp, hv⟩ := h
  rw [hp.conduct, hv]

end World

namespace Engine

variable {e e' e'' : Engine} {w w' w'' : World} {limit : Nat} {body : Invoke} {scope : Scope}
  {returnType : ReturnType} {value : Option Json} {vs vs' : List Visit}

theorem visits_succ (hr : e.isRunning) (hs : e.scope = some scope)
    (he : e.attempt body limit w = some (.ok value, e', w')) :
    e.visits body returnType (limit + 1) w = e.visit scope w ::
      if value.isSome ∧ returnType = .result then [] else e'.visits body returnType limit w' := by
  simp only [visits, hr, hs, he]

/-- The first invocation is a visit. -/
theorem visit_mem_visits (hr : e.isRunning) (hs : e.scope = some scope) :
    e.visit scope w ∈ e.visits body returnType (limit + 1) w := by
  simp only [visits, hr, hs, List.mem_cons_self]

/-! ## The driver of a run -/

/-- `e'` and `w'` are what `e` and `w` may become while a run with this body is driven, and `vs` are
the invocations on the way. -/
inductive Driven (body : Invoke) (e : Engine) (w : World) : List Visit → Engine → World → Prop
  | nil : Driven body e w [] e w
  | propose {vs : List Visit} {e' e'' : Engine} {w' w'' : World} {limit : Nat} {s : State}
      {r : Except EngineError State} : Driven body e w vs e' w' →
      e'.setState limit w' s = some (r, e'', w'') → Driven body e w vs e'' w''
  | sleep {vs : List Visit} {e' : Engine} {w' : World} (duration : Nat) :
      Driven body e w vs e' w' → Driven body e w vs e' (w'.sleep duration)
  | invoke {vs : List Visit} {e' e'' : Engine} {w' w'' : World} {scope : Scope}
      {outcome : Except Failure Json} : Driven body e w vs e' w' → e'.scope = some scope →
      e'.invoke body w' = some (outcome, e'', w'') →
      Driven body e w (vs ++ [e'.visit scope w']) e'' w''

theorem Driven.trans (h : Driven body e w vs e' w') (h' : Driven body e' w' vs' e'' w'') :
    Driven body e w (vs ++ vs') e'' w'' := by
  induction h' with
  | nil =>
    rw [List.append_nil]
    exact h
  | propose _ hset ih => exact ih.propose hset
  | sleep duration _ ih => exact ih.sleep duration
  | invoke _ hs hinvoke ih =>
    rw [← List.append_assoc]
    exact ih.invoke hs hinvoke

theorem driven_setState (body : Invoke) {s : State} {r : Except EngineError State}
    (h : e.setState limit w s = some (r, e', w')) : Driven body e w [] e' w' := .propose .nil h

theorem driven_handleSuccess (body : Invoke) {v : Json} {r : Except EngineError Json}
    (h : e.handleSuccess limit w v = some (r, e', w')) : Driven body e w [] e' w' := by
  simp only [handleSuccess] at h
  split at h <;> cases h <;> rename_i heq <;> exact driven_setState body heq

theorem driven_awaitAdmission (body : Invoke) {backoff : Nat} {r : Except EngineError Unit}
    (h : e.awaitAdmission backoff limit w = some (r, e', w')) : Driven body e w [] e' w' := by
  induction limit generalizing e w with
  | zero => simp [awaitAdmission] at h
  | succ limit ih =>
    simp only [awaitAdmission] at h
    split at h
    · cases h
    · rename_i heq
      cases h
      exact driven_setState body heq
    · rename_i heq
      split at h
      · exact ((driven_setState body heq).sleep backoff).trans (ih h)
      · cases h
        exact driven_setState body heq

/-- An engine with a scope makes an invocation as the visit that it is. -/
theorem exists_run_of_invoke {outcome : Except Failure Json} (hs : e.scope = some scope)
    (h : e.invoke body w = some (outcome, e', w')) : ∃ inside,
      (e.visit scope w).run body = some (outcome, inside) ∧
      e' = { e with scope := inside.scopes.head?, invocations := e.invocations + 1 } ∧
      w' = { inside with scopes := inside.scopes.tail }.record (.returned outcome) := by
  obtain ⟨_, inside, hs', hinside, he, hw⟩ := exists_inside_of_invoke h
  cases hs.symm.trans hs'
  exact ⟨inside, hinside, he, hw⟩

/-- An attempt is one invocation, and takes a scope. -/
theorem driven_attempt {r : Except EngineError (Option Json)}
    (h : e.attempt body limit w = some (r, e', w')) :
    ∃ scope, e.scope = some scope ∧ Driven body e w [e.visit scope w] e' w' := by
  simp only [attempt] at h
  split at h
  · cases h
  all_goals
    rename_i hinvoke
    obtain ⟨scope, -, hs, -⟩ := exists_inside_of_invoke hinvoke
    have hinvoked := Driven.nil.invoke hs hinvoke
    refine ⟨scope, hs, ?_⟩
    split at h <;> cases h <;> rename_i heq
  · exact hinvoked.trans (driven_handleSuccess body heq)
  · exact hinvoked.trans (driven_handleSuccess body heq)
  · exact hinvoked.propose heq
  · exact hinvoked.propose heq

theorem driven_attempts {r : Except EngineError (Option Json)}
    (h : e.attempts body returnType limit w = some (r, e', w')) :
    Driven body e w (e.visits body returnType limit w) e' w' := by
  induction limit generalizing e w with
  | zero => simp [attempts] at h
  | succ limit ih =>
    cases hgo : e.isRunning with
    | false =>
      simp only [attempts, hgo, Bool.not_false, if_true] at h
      cases h
      simp only [visits, hgo]
      exact .nil
    | true =>
      simp only [attempts, hgo, Bool.not_true, Bool.false_eq_true, if_false] at h
      split at h
      · cases h
      · rename_i heq
        cases h
        obtain ⟨scope, hs, hv⟩ := driven_attempt heq
        simpa only [visits, hgo, hs, heq] using hv
      · rename_i heq
        obtain ⟨scope, hs, hv⟩ := driven_attempt heq
        rw [visits_succ hgo hs heq]
        split at h
        · rename_i hstop
          cases h
          rwa [if_pos hstop]
        · rename_i hgo
          rw [if_neg hgo]
          exact hv.trans (ih h)

/-- **The driver proposes, waits and invokes the body, and nothing else.** -/
theorem driven_drive {options : RunOptions} {outcome : Except EngineError RunOutput}
    (h : e.drive limit body options w = some (outcome, e', w')) :
    Driven body e w (e.driveVisits limit body options w) e' w' := by
  simp only [drive] at h
  simp only [driveVisits]
  split at h
  · cases h
  · rename_i ha
    cases h
    simp only [ha]
    exact driven_awaitAdmission body ha
  · rename_i ha
    simp only [ha]
    split at h <;> cases h <;> rename_i hatt
    all_goals exact (driven_awaitAdmission body ha).trans (driven_attempts hatt)

/-- Before an invocation, the body was invoked as the list says. -/
theorem driven_of_visits {earlier later : List Visit} {v : Visit}
    (h : e.visits body returnType limit w = earlier ++ v :: later) :
    ∃ e' w' scope, Driven body e w earlier e' w' ∧ e'.scope = some scope ∧
      v = e'.visit scope w' := by
  induction limit generalizing e w earlier with
  | zero => simp [visits] at h
  | succ limit ih =>
    simp only [visits] at h
    split at h
    · rename_i scope _ hs
      cases earlier with
      | nil =>
        obtain ⟨rfl, -⟩ := List.cons.inj h
        exact ⟨e, w, scope, .nil, hs, rfl⟩
      | cons first earlier =>
        obtain ⟨rfl, hrest⟩ := List.cons.inj h
        split at hrest
        · rename_i e₁ w₁ hattempt
          split at hrest
          · simp at hrest
          · obtain ⟨e', w', scope', hdriven, hs', hv⟩ := ih hrest
            obtain ⟨_, hs'', hfirst⟩ := driven_attempt hattempt
            cases hs.symm.trans hs''
            exact ⟨e', w', scope', hfirst.trans hdriven, hs', hv⟩
        · simp at hrest
    · simp at h

theorem driven_of_driveVisits {options : RunOptions} {earlier later : List Visit} {v : Visit}
    (h : e.driveVisits limit body options w = earlier ++ v :: later) :
    ∃ e' w' scope, Driven body e w earlier e' w' ∧ e'.scope = some scope ∧
      v = e'.visit scope w' := by
  simp only [driveVisits] at h
  split at h
  · rename_i hadmission
    obtain ⟨e', w', scope, hdriven, hs, hv⟩ := driven_of_visits h
    exact ⟨e', w', scope, (driven_awaitAdmission body hadmission).trans hdriven, hs, hv⟩
  · simp at h

/-! ## Invocations in the journal -/

end Engine

/-! ## Requests -/

namespace World

variable {w left : World} {limit : Nat} {body : Invoke} {flow : Flow} {request : RunRequest}

end World

end RunEngine
