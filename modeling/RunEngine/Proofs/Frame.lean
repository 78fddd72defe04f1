import RunEngine.Proofs.Passage
import RunEngine.Run

/-!
# What an execution leaves in place

Whatever an engine does, and whatever a body does inside its run, the world afterwards comes after
the world before in the sense of `Passage`: the scopes around the run are untouched, the time on
records is the same, the client was only called, and the events of nested runs are deeper than the
engine's own.

An engine's operations are followed one by one. A body is a program, and programs start engines for
nested runs, so the last step is an induction on programs (`Program.run_leads`): the engine of a
nested run keeps the frame because its body, a smaller program, does.
-/

namespace RunEngine

/-- The engine's own events of a phase in which it makes no attempt. -/
def Event.IsApart (e : Event) : Prop := e.isOfBody = false

/-- A body that keeps the frame of the run it is invoked in. -/
structure Invoke.KeepsFrame (body : Invoke) : Prop where
  leads : ∀ {n parameters w outcome w'}, body n parameters w = some (outcome, w') →
    w.Leads (fun _ => True) w'

namespace Engine

open World

variable {e e' : Engine} {w w' : World} {limit : Nat} {s : State}

/-! ## Proposals -/

theorem leads_proposeUntilAnswered {id : Uuid} {r : Except EngineError State}
    (h : proposeUntilAnswered id s limit w = some (r, w')) : w.Leads Event.IsApart w' := by
  induction limit generalizing w with
  | zero => simp [proposeUntilAnswered] at h
  | succ limit ih =>
    have hp : w.Leads Event.IsApart (w.propose id s).2 :=
      (w.passage_propose id s).leads_one rfl
    simp only [proposeUntilAnswered] at h
    split at h <;> rename_i heq <;> rw [heq] at hp
    case h_3 => exact (hp.trans (passage_sleep ..).leads_nil).trans (ih h)
    all_goals
      cases h
      exact hp

theorem leads_setState {r : Except EngineError State}
    (h : e.setState limit w s = some (r, e', w')) : w.Leads Event.IsApart w' := by
  simp only [setState] at h
  split at h
  · cases h
    exact .refl ..
  · split at h
    · cases h
      exact .refl ..
    · split at h
      · cases h
        exact .refl ..
      · split at h
        · cases h
        all_goals
          rename_i heq
          cases h
          exact leads_proposeUntilAnswered heq

theorem leads_beginRun {r : Except EngineError State}
    (h : e.beginRun limit w = some (r, e', w')) : w.Leads Event.IsApart w' := leads_setState h

theorem leads_handleException {f : Failure} {message : Option String}
    {capture : Option ErrorCapture} {r : Except EngineError State}
    (h : e.handleException limit w f message capture = some (r, e', w')) :
    w.Leads Event.IsApart w' := leads_setState h

theorem leads_handleSuccess {value : Json} {r : Except EngineError Json}
    (h : e.handleSuccess limit w value = some (r, e', w')) : w.Leads Event.IsApart w' := by
  simp only [handleSuccess] at h
  split at h
  · cases h
  all_goals
    rename_i heq
    cases h
    exact leads_setState heq

/-! ## Starting -/

theorem prepares_link (e : Engine) (w : World) : w.Prepares (e.link w).1 (e.link w).2 := by
  simp only [link]
  split
  · exact prepares_refl ..
  · rename_i parent rest hs
    have hk : w.Leads (·.isClerical) (w.withScope (parent.nextDynamicKey e.flow.taskKey).2) :=
      (passage_withScope (by simp [hs])).leads_nil
    split <;> rename_i heq
    all_goals
      refine hk.prepares ((heq ▸ passage_createTaskRun ..).prepares rfl ?_)
      intro error h
      cases h
    rfl

theorem prepares_create (e : Engine) (w : World) : w.Prepares (e.create w).1 (e.create w).2 := by
  have hl := prepares_link e w
  simp only [create]
  split <;> rename_i hlink <;> rw [hlink] at hl
  · exact hl.imp fun _ => And.imp_right (And.imp_right fun hr error h => hr error (by cases h; rfl))
  · split <;> rename_i heq
    all_goals
      refine hl.leads.prepares ((heq ▸ passage_createFlowRun ..).prepares rfl ?_)
      intro error h
      cases h
    rfl

theorem prepares_ensureRecord (e : Engine) (w : World) :
    w.Prepares (e.ensureRecord w).1 (e.ensureRecord w).2.2 := by
  have hc := prepares_create e w
  simp only [ensureRecord]
  split
  · exact prepares_refl ..
  · split <;> rename_i heq <;> rw [heq] at hc <;> exact hc

theorem leads_checkParameters {r : Except EngineError Unit}
    (h : e.checkParameters limit w = some (r, e', w')) : w.Leads Event.IsApart w' := by
  simp only [checkParameters] at h
  split at h
  · cases h
    exact .refl ..
  · split at h
    · cases h
      exact .refl ..
    · split at h
      · cases h
      all_goals
        rename_i heq
        cases h
        exact leads_handleException heq

theorem leads_setup {r : Except EngineError Unit}
    (h : e.setup limit w = some (r, e', w')) : w.Leads Event.IsApart w' := by
  have hr := (prepares_ensureRecord e w).leads.mono fun _ => Event.isOfBody_of_isClerical
  simp only [setup] at h
  split at h <;> rename_i heq <;> rw [heq] at hr
  · cases h
    exact hr
  · split at h
    · cases h
    all_goals
      rename_i heq
      cases h
      exact hr.trans (leads_checkParameters heq)

theorem leads_start {r : Except EngineError Unit}
    (h : e.start limit w = some (r, e', w')) : w.Leads Event.IsApart w' := by
  have hc : w.Leads Event.IsApart w.connect.2 := (passage_connect w).leads_one rfl
  simp only [start] at h
  split at h
  · cases h
    exact .refl ..
  · split at h <;> rename_i heq <;> rw [heq] at hc
    · cases h
      exact hc
    · split at h
      · cases h
      · rename_i heq
        cases h
        exact hc.trans (leads_setup heq)
      · rename_i heq
        cases h
        exact (hc.trans (leads_setup heq)).trans ((passage_close _).leads_one rfl)

/-! ## Driving -/

theorem leads_awaitAdmission {backoff : Nat} {r : Except EngineError Unit}
    (h : e.awaitAdmission backoff limit w = some (r, e', w')) : w.Leads Event.IsApart w' := by
  induction limit generalizing e w with
  | zero => simp [awaitAdmission] at h
  | succ limit ih =>
    simp only [awaitAdmission] at h
    split at h
    · cases h
    · rename_i heq
      cases h
      exact leads_beginRun heq
    · rename_i heq
      split at h
      · exact ((leads_beginRun heq).trans (passage_sleep ..).leads_nil).trans (ih h)
      · cases h
        exact leads_beginRun heq

/-- Of what happens in a body, only its beginning and its end are events of its own engine. -/
theorem passage_enter {scope : Scope} {own : List Event} {outcome : Except Failure Json}
    (h : (e.enter scope w).Passage own w') :
    w.Passage [.invoke e.parameters, .returned outcome]
      ({ w' with scopes := w'.scopes.tail }.record (.returned outcome)) where
  now := h.now
  client := h.client
  depth := congrArg List.length h.outer
  outer := congrArg List.tail h.outer
  events := by
    obtain ⟨es, he, hd, -⟩ := h.events
    -- Whatever the body did is one scope deeper than the engine's own events.
    have hin : es.filter (fun p => p.1 == w.scopes.length) = [] := by
      refine List.filter_eq_nil_iff.2 fun p hp => ?_
      have hdeep : w.scopes.length + 1 ≤ p.1 := hd p hp
      simp only [beq_iff_eq]
      omega
    have hlen : w'.scopes.tail.length = w.scopes.length := congrArg List.length h.outer
    refine ⟨(w.scopes.length, .invoke e.parameters) :: es ++ [(w.scopes.length, .returned outcome)],
      ?_, ?_, ?_⟩
    · simp [World.record, he, enter, hlen]
    · intro p hp
      simp only [List.cons_append, List.mem_cons, List.mem_append, List.not_mem_nil, or_false] at hp
      obtain rfl | hp | rfl := hp
      · exact Nat.le_refl _
      · exact Nat.le_of_succ_le (hd p hp)
      · exact Nat.le_refl _
    · simp [hin]

/-- An invocation is one of the body inside the scope of the run. The engine takes back the scope
that the body left. -/
theorem exists_inside_of_invoke {body : Invoke} {outcome : Except Failure Json}
    (h : e.invoke body w = some (outcome, e', w')) : ∃ scope inside, e.scope = some scope ∧
      body e.invocations e.parameters (e.enter scope w) = some (outcome, inside) ∧
      e' = { e with scope := inside.scopes.head?, invocations := e.invocations + 1 } ∧
      w' = { inside with scopes := inside.scopes.tail }.record (.returned outcome) := by
  simp only [invoke] at h
  split at h
  · cases h
  · rename_i scope hs
    split at h <;> cases h
    rename_i inside hinside
    exact ⟨scope, inside, hs, hinside, rfl, rfl⟩

theorem passage_invoke {body : Invoke} (hb : body.KeepsFrame) {outcome : Except Failure Json}
    (h : e.invoke body w = some (outcome, e', w')) :
    w.Passage [.invoke e.parameters, .returned outcome] w' := by
  obtain ⟨scope, inside, -, hinside, -, rfl⟩ := exists_inside_of_invoke h
  obtain ⟨own, hp, -⟩ := hb.leads hinside
  exact passage_enter hp

/-- An attempt invokes the body once, and first of all. -/
theorem passage_attempt {body : Invoke} (hb : body.KeepsFrame)
    {r : Except EngineError (Option Json)} (h : e.attempt body limit w = some (r, e', w')) :
    ∃ own, w.Passage (.invoke e.parameters :: own) w' ∧ ∀ x ∈ own, x.isInvocation = false := by
  have hreport : ∀ {outcome w₁}, w.Passage [.invoke e.parameters, .returned outcome] w₁ →
      w₁.Leads Event.IsApart w' → ∃ own, w.Passage (.invoke e.parameters :: own) w' ∧
        ∀ x ∈ own, x.isInvocation = false := by
    rintro outcome w₁ hi ⟨own, hp, hapart⟩
    refine ⟨.returned outcome :: own, hi.trans hp, fun x hx => ?_⟩
    rcases List.mem_cons.1 hx with rfl | hx
    · rfl
    · exact Event.isInvocation_of_isOfBody (hapart x hx)
  simp only [attempt] at h
  split at h
  · cases h
  all_goals
    rename_i hi
    have hi := passage_invoke hb hi
    split at h
    · cases h
    all_goals
      rename_i heq
      cases h
  · exact hreport hi (leads_handleSuccess heq)
  · exact hreport hi (leads_handleSuccess heq)
  · exact hreport hi (leads_handleException heq)
  · exact hreport hi (leads_handleException heq)

theorem leads_attempt {body : Invoke} (hb : body.KeepsFrame)
    {r : Except EngineError (Option Json)} (h : e.attempt body limit w = some (r, e', w')) :
    w.Leads (fun _ => True) w' := by
  obtain ⟨own, hp, -⟩ := passage_attempt hb h
  exact hp.leads fun _ _ => trivial

theorem leads_attempts {body : Invoke} (hb : body.KeepsFrame) {returnType : ReturnType}
    {r : Except EngineError (Option Json)}
    (h : e.attempts body returnType limit w = some (r, e', w')) : w.Leads (fun _ => True) w' := by
  induction limit generalizing e w with
  | zero => simp [attempts] at h
  | succ limit ih =>
    simp only [attempts] at h
    split at h
    · cases h
      exact .refl ..
    · split at h
      · cases h
      · rename_i heq
        cases h
        exact leads_attempt hb heq
      · rename_i heq
        split at h
        · cases h
          exact leads_attempt hb heq
        · exact (leads_attempt hb heq).trans (ih h)

theorem leads_drive {body : Invoke} (hb : body.KeepsFrame) {options : RunOptions}
    {r : Except EngineError RunOutput}
    (h : e.drive limit body options w = some (r, e', w')) : w.Leads (fun _ => True) w' := by
  simp only [drive] at h
  split at h
  · cases h
  · rename_i heq
    cases h
    exact (leads_awaitAdmission heq).mono fun _ _ => trivial
  · rename_i ha
    have ha := (leads_awaitAdmission ha).mono (Q := fun _ => True) fun _ _ => trivial
    split at h
    · cases h
    all_goals
      rename_i heq
      cases h
      exact ha.trans (leads_attempts hb heq)

/-! ## Finishing -/

theorem leads_isOfFinish (e : Engine) (w : World) : w.Leads (·.isOfFinish) (e.finish w).2 := by
  have hs : ∀ group, w.Leads (·.isOfFinish) (w.settle group) := fun group =>
    (passage_settle w group).leads_one rfl
  simp only [finish]
  split
  · exact .refl ..
  · refine Leads.trans ?_ ((passage_close _).leads_one rfl)
    split <;> split
    · exact (hs _).trans (leads_report ..)
    · exact leads_report ..
    · exact hs _
    · exact .refl ..

theorem leads_finish (e : Engine) (w : World) : w.Leads (·.isClerical) (e.finish w).2 :=
  (leads_isOfFinish e w).mono fun _ => Event.isClerical_of_isOfFinish

theorem leads_execute {body : Invoke} (hb : body.KeepsFrame) {options : RunOptions}
    {outcome : Except EngineError RunOutput}
    (h : e.execute limit body options w = some (outcome, w')) : w.Leads (fun _ => True) w' := by
  have hstart : ∀ {r : Except EngineError Unit} {e₁ w₁}, e.start limit w = some (r, e₁, w₁) →
      w.Leads (fun _ => True) w₁ := fun h => (leads_start h).mono fun _ _ => trivial
  have hfinish : ∀ (e₁ : Engine) (w₁ : World), w₁.Leads (fun _ => True) (e₁.finish w₁).2 :=
    fun e₁ w₁ => (leads_finish e₁ w₁).mono fun _ _ => trivial
  simp only [execute] at h
  split at h
  · cases h
  · rename_i heq
    cases h
    exact hstart heq
  · rename_i heq
    split at h
    · cases h
      exact (hstart heq).trans (hfinish ..)
    · split at h
      · cases h
      · rename_i hd
        cases h
        exact ((hstart heq).trans (leads_drive hb hd)).trans (hfinish ..)

end Engine

/-! ## Callers -/

namespace World

variable {w w' left : World} {limit : Nat} {body : Invoke} {flow : Flow} {request : RunRequest}
  {own : List Event} {P : Event → Prop}

theorem prepares_board (w : World) (entry : Entry) :
    w.Prepares ((w.board entry).1.mapError .client) (w.board entry).2 := by
  have henter (left : World) : left.Passage [] { left with onRuntime := true } :=
    passage_silent rfl (.refl ..) rfl rfl rfl
  cases entry with
  | await => exact prepares_refl ..
  | block =>
    simp only [board]
    split
    · exact (prepares_fork w).silent (henter _)
    · exact (prepares_refl w ()).silent (henter w)

/-- The caller sees the same passage, and a client of its own as it left it. -/
theorem Passage.alight {client : Client} (hc : w.clientFor request.options = .ok client)
    (h : { w with client }.Passage own left) : w.Passage own (w.alight request left) := by
  obtain ⟨seen, hseen, halight⟩ : ∃ seen, { w with client }.Passage own seen ∧
      w.alight request left = if request.options.client.isNone && !w.scopes.isEmpty then seen
        else { seen with client := w.client } := by
    simp only [World.alight]
    cases request.entry with
    | await => exact ⟨left, h, rfl⟩
    | block =>
      exact ⟨{ left with onRuntime := w.onRuntime, clock := w.clock },
        ⟨h.now, h.client, h.depth, h.outer, h.events⟩, rfl⟩
  rw [halight]
  split
  · rename_i hs
    -- The enclosing run's client is shared: it was the client all along.
    obtain ⟨ho, hne⟩ : request.options.client = none ∧ w.scopes.isEmpty = false := by simpa using hs
    obtain rfl : w.client = client := by simpa [clientFor, ho, hne] using hc
    exact hseen
  · exact hseen.withClient

theorem leads_runFlow (hb : body.KeepsFrame) {reply : RunReply}
    (h : w.runFlow limit body flow request = some (reply, w')) : w.Leads (fun _ => True) w' := by
  simp only [runFlow] at h
  split at h
  · cases h
    exact .refl ..
  · rename_i client hc
    have hboard := (prepares_board { w with client } request.entry).leads
    split at h <;> rename_i heq <;> rw [heq] at hboard
    · cases h
      obtain ⟨own, hp, -⟩ := hboard
      exact (hp.alight hc).leads fun _ _ => trivial
    · split at h
      · cases h
      · rename_i hx
        cases h
        obtain ⟨own, hp, -⟩ :=
          (hboard.mono fun _ _ => trivial).trans (Engine.leads_execute hb hx)
        exact (hp.alight hc).leads fun _ _ => trivial

end World

/-! ## Programs -/

/-- **A program keeps the frame of the run it is the body of.** -/
theorem Program.run_leads {limit : Nat} {program : Program} {w w' : World}
    {outcome : Except Failure Json} (h : program.run limit w = some (outcome, w')) :
    w.Leads (fun _ => True) w' := by
  induction program generalizing w w' outcome with
  | done =>
    cases h
    exact .refl ..
  | perform action next ih => exact (w.passage_perform action).leads_nil.trans (ih _ h)
  | runFlow flow body request next ihBody ihNext =>
    simp only [run] at h
    split at h
    · cases h
    · rename_i heq
      -- The body of the nested run is a smaller program, whatever it is given.
      exact (World.leads_runFlow ⟨fun hb => ihBody _ _ hb⟩ heq).trans (ihNext _ h)

theorem Body.keepsFrame_invoke (limit : Nat) (body : Body) : (body.invoke limit).KeepsFrame :=
  ⟨fun h => Program.run_leads h⟩

end RunEngine
