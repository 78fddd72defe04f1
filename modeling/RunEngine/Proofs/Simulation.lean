import RunEngine.Proofs.Likeness

/-!
# A run and its counterpart

What an engine does in one of two executions that are alike, its counterpart does in the other one:
the operations answer the same, and they leave engines and worlds alike (`Engine.Matched`). The
operations are followed one by one, from a proposal to the whole of a run.

A body is the same program in both executions, and it is told the same. It runs other flows, whose
bodies are smaller programs, so **`Program.exists_run_alike`** is an induction on programs. Where a
nested run is given a client of its own, this client is the same in both executions, and the
likeness is an exact one for as long as the run takes.

The reply to a nested run brings along the client that it had. With the client of the enclosing run
a program could find out in which of the executions it is; `Program.Respects` says that it does not
go by what related clients differ in.
-/

namespace RunEngine

/-! ## Engines -/

/-- A body within one bound does what the body within the other does. -/
def Invoke.Follows (l : Likeness) (body body' : Invoke) : Prop :=
  ∀ ⦃invoked : Nat⦄ ⦃parameters : Parameters⦄ ⦃depth : Nat⦄ ⦃w w' v : World⦄
    ⦃outcome : Except Failure Json⦄, w.Alike l (depth + 1) w' →
    body invoked parameters w = some (outcome, v) →
    ∃ v', body' invoked parameters w' = some (outcome, v') ∧ v.Alike l (depth + 1) v'

namespace Engine

/-- The engines are the same, up to how the caller waits for the run if that is `masked`. -/
structure Alike (masked : Bool) (e e' : Engine) : Prop where
  flow : e'.flow = e.flow
  parameters : e'.parameters = e.parameters
  record : e'.record = e.record
  mode : masked = false → e'.mode = e.mode
  group : (e.group.getD {}).Alike masked (e'.group.getD {})
  standing : e'.standing = e.standing
  connected : e'.connected = e.connected
  scope : Option.Rel (Scope.Alike masked) e.scope e'.scope
  invocations : e'.invocations = e.invocations

/-- The counterpart of a step that had the answer `r` and left `e` and `w`. -/
def Matched {α : Type} (l : Likeness) (depth : Nat) (r : α) (e : Engine) (w : World)
    (x : Option (α × Engine × World)) : Prop :=
  ∃ e' w', x = some (r, e', w') ∧ e.Alike (l.masks depth) e' ∧ w.Alike l depth w'

variable {l : Likeness} {F : Nat → Nat → Prop} {depth n n' : Nat} {e e' e₁ : Engine}
  {w w' w₁ : World} {s : State} {masked : Bool}

namespace Alike

theorem apply (h : e.Alike masked e') (s : State) : (e.apply s).Alike masked (e'.apply s) := by
  refine { h with record := ?_, scope := ?_ }
  · simp only [Engine.apply, h.record]
  · have hscope := h.scope
    simp only [Engine.apply]
    generalize e.scope = scope at hscope ⊢
    generalize e'.scope = scope' at hscope ⊢
    cases hscope with
    | none => exact .none
    | some hs =>
      cases hs with
      | mk hmode hgroup => exact .some (.mk hmode hgroup)

theorem refl (masked : Bool) (e : Engine) : e.Alike masked e where
  flow := rfl
  parameters := rfl
  record := rfl
  mode _ := rfl
  group := .refl ..
  standing := rfl
  connected := rfl
  scope := by
    cases e.scope with
    | none => exact .none
    | some s => exact .some (.refl ..)
  invocations := rfl

theorem symm (h : e.Alike masked e') : e'.Alike masked e where
  flow := h.flow.symm
  parameters := h.parameters.symm
  record := h.record.symm
  mode hm := (h.mode hm).symm
  group := h.group.symm
  standing := h.standing.symm
  connected := h.connected.symm
  scope := by
    have hscope := h.scope
    generalize e.scope = scope at hscope ⊢
    generalize e'.scope = scope' at hscope ⊢
    cases hscope with
    | none => exact .none
    | some hs => exact .some hs.symm
  invocations := h.invocations.symm

theorem isNone_scope (h : e.Alike masked e') : e'.scope.isNone = e.scope.isNone := by
  have hscope := h.scope
  generalize e.scope = scope at hscope ⊢
  generalize e'.scope = scope' at hscope ⊢
  cases hscope <;> rfl

theorem state? (h : e.Alike masked e') : e'.state? = e.state? := by
  simp only [Engine.state?, h.record]

theorem isPending (h : e.Alike masked e') : e'.isPending = e.isPending := by
  simp only [Engine.isPending, isShortCircuited, h.standing, h.state?]

theorem isRunning (h : e.Alike masked e') : e'.isRunning = e.isRunning := by
  simp only [Engine.isRunning, isShortCircuited, h.standing, h.state?]

theorem output (h : e.Alike masked e') (options : RunOptions) :
    e'.output options = e.output options := by
  simp only [Engine.output, result, h.state?]

theorem openScope (h : e.Alike masked e') : e.openScope.Alike masked e'.openScope := by
  refine { h with group := .refl .., scope := ?_ }
  simp only [Engine.openScope, h.record, h.flow, h.parameters]
  cases e.record with
  | none => exact .none
  | some run => exact .some (.mk h.mode h.group)

end Alike

/-! ## Proposals -/

theorem matched_setState (hl : l.Follows F) (hF : F n n') (he : e.Alike (l.masks depth) e')
    (hw : w.Alike l depth w') {r : Except EngineError State}
    (h : e.setState n w s = some (r, e₁, w₁)) :
    Matched l depth r e₁ w₁ (e'.setState n' w' s) := by
  simp only [setState, he.standing, he.connected, he.record] at h ⊢
  split at h
  · cases h
    exact ⟨e', w', rfl, he, hw⟩
  · split at h
    · rename_i hc
      cases h
      exact ⟨e', w', by rw [if_pos hc], he, hw⟩
    · rename_i hc
      rw [if_neg hc]
      split at h
      · cases h
        exact ⟨e', w', rfl, he, hw⟩
      · split at h <;> cases h <;> rename_i hp <;> obtain ⟨w₁', hp', hw₁⟩ := hl.propose hF hw hp
        · exact ⟨_, w₁', by simp only [hp'], he.apply _, hw₁⟩
        · exact ⟨e', w₁', by simp only [hp'], he, hw₁⟩

theorem matched_beginRun (hl : l.Follows F) (hF : F n n') (he : e.Alike (l.masks depth) e')
    (hw : w.Alike l depth w') {r : Except EngineError State}
    (h : e.beginRun n w = some (r, e₁, w₁)) :
    Matched l depth r e₁ w₁ (e'.beginRun n' w') := by
  rw [beginRun, hw.now]
  exact matched_setState hl hF he hw h

theorem matched_handleException (hl : l.Follows F) (hF : F n n')
    (he : e.Alike (l.masks depth) e') (hw : w.Alike l depth w') {failure : Failure}
    {message : Option String} {capture : Option ErrorCapture} {r : Except EngineError State}
    (h : e.handleException n w failure message capture = some (r, e₁, w₁)) :
    Matched l depth r e₁ w₁ (e'.handleException n' w' failure message capture) := by
  rw [handleException, hw.now, he.flow]
  exact matched_setState hl hF he hw h

theorem matched_handleSuccess (hl : l.Follows F) (hF : F n n')
    (he : e.Alike (l.masks depth) e') (hw : w.Alike l depth w') {value : Json}
    {r : Except EngineError Json} (h : e.handleSuccess n w value = some (r, e₁, w₁)) :
    Matched l depth r e₁ w₁ (e'.handleSuccess n' w' value) := by
  simp only [handleSuccess] at h ⊢
  rw [hw.now]
  split at h
  · cases h
  all_goals
    rename_i heq
    cases h
    obtain ⟨e₁', w₁', heq', he₁, hw₁⟩ := matched_setState hl hF he hw heq
    exact ⟨e₁', w₁', by rw [heq'], he₁, hw₁⟩

/-! ## Starting -/

theorem agree_link (hk : l.Keeps) (he : e.Alike masked e') (hw : w.Alike l depth w') :
    World.Agree l depth (e.link w) (e'.link w') := by
  simp only [link, he.flow, he.parameters, hw.now]
  rcases hw.scopes_cases with ⟨hs, hs'⟩ | ⟨s, s', rest, rest', hs, hs', hscope⟩
  · simp only [hs, hs']
    exact ⟨rfl, hw⟩
  · obtain ⟨hkey, hnext⟩ := hscope.nextDynamicKey e.flow.taskKey
    simp only [hs, hs', hkey, hnext.runId]
    split <;> rename_i heq <;>
      obtain ⟨v', heq', hv⟩ :=
        ((hw.withScope hs hs' hnext).createTaskRun hk _).exists heq <;>
      rw [heq'] <;> exact ⟨rfl, hv⟩

theorem agree_create (hk : l.Keeps) (he : e.Alike masked e') (hw : w.Alike l depth w') :
    World.Agree l depth (e.create w) (e'.create w') := by
  have hlink := agree_link hk he hw
  simp only [create, he.flow, he.parameters]
  split <;> rename_i heq <;> obtain ⟨v', heq', hv⟩ := hlink.exists heq <;> rw [heq']
  · exact ⟨rfl, hv⟩
  · rename_i parent v
    simp only [hv.now]
    split <;> rename_i hc <;> obtain ⟨x', hc', hx⟩ := (hv.createFlowRun hk _).exists hc <;>
      rw [hc'] <;> exact ⟨rfl, hx⟩

theorem matched_ensureRecord (hk : l.Keeps) (he : e.Alike (l.masks depth) e')
    (hw : w.Alike l depth w') {r : Except EngineError FlowRun}
    (h : e.ensureRecord w = (r, e₁, w₁)) :
    Matched l depth r e₁ w₁ (some (e'.ensureRecord w')) := by
  have hcreate := agree_create hk he hw
  simp only [ensureRecord, he.record] at h ⊢
  split at h
  · cases h
    exact ⟨e', w', rfl, he, hw⟩
  · split at h <;> cases h <;> rename_i heq <;>
      obtain ⟨w₁', heq', hw₁⟩ := hcreate.exists heq <;> rw [heq']
    · exact ⟨_, w₁', rfl, { he with record := rfl }, hw₁⟩
    · exact ⟨e', w₁', rfl, he, hw₁⟩

theorem matched_checkParameters (hl : l.Follows F) (hF : F n n')
    (he : e.Alike (l.masks depth) e') (hw : w.Alike l depth w') {r : Except EngineError Unit}
    (h : e.checkParameters n w = some (r, e₁, w₁)) :
    Matched l depth r e₁ w₁ (e'.checkParameters n' w') := by
  simp only [checkParameters, he.flow, he.parameters] at h ⊢
  split at h
  · rename_i hv
    cases h
    exact ⟨e', w', by rw [if_pos hv], he, hw⟩
  · rename_i hv
    rw [if_neg hv]
    split at h
    · cases h
      exact ⟨_, w', rfl, { he with flow := rfl, parameters := rfl }, hw⟩
    · split at h <;> cases h <;> rename_i heq <;>
        obtain ⟨e₁', w₁', heq', he₁, hw₁⟩ := matched_handleException hl hF he hw heq <;>
        simp only [heq']
      · exact ⟨e₁', w₁', rfl, he₁, hw₁⟩
      · exact ⟨_, w₁', rfl, { he₁ with standing := rfl }, hw₁⟩

theorem matched_setup (hl : l.Follows F) (hF : F n n') (he : e.Alike (l.masks depth) e')
    (hw : w.Alike l depth w') {r : Except EngineError Unit}
    (h : e.setup n w = some (r, e₁, w₁)) : Matched l depth r e₁ w₁ (e'.setup n' w') := by
  simp only [setup] at h ⊢
  split at h <;> rename_i heq <;>
    obtain ⟨e₂, w₂, heq', he₂, hw₂⟩ := matched_ensureRecord hl.toKeeps he hw heq <;>
    rw [Option.some_inj] at heq' <;> rw [heq']
  · cases h
    exact ⟨e₂, w₂, rfl, he₂, hw₂⟩
  · split at h <;> cases h <;> rename_i hc <;>
      obtain ⟨e₃, w₃, hc', he₃, hw₃⟩ := matched_checkParameters hl hF he₂ hw₂ hc <;>
      simp only [hc']
    · exact ⟨e₃, w₃, rfl, he₃, hw₃⟩
    · exact ⟨_, w₃, rfl, he₃.openScope, hw₃⟩

theorem matched_start (hl : l.Follows F) (hF : F n n') (he : e.Alike (l.masks depth) e')
    (hw : w.Alike l depth w') {r : Except EngineError Unit}
    (h : e.start n w = some (r, e₁, w₁)) : Matched l depth r e₁ w₁ (e'.start n' w') := by
  have hconnect := hw.connect hl.toKeeps
  simp only [start, he.connected] at h ⊢
  split at h
  · rename_i hc
    cases h
    exact ⟨e', w', by rw [if_pos hc], he, hw⟩
  · rename_i hc
    rw [if_neg hc]
    split at h <;> rename_i heq <;> obtain ⟨w₂, heq', hw₂⟩ := hconnect.exists heq <;> rw [heq']
    · cases h
      exact ⟨e', w₂, rfl, he, hw₂⟩
    · have hon : Alike (l.masks depth) { e with connected := true } { e' with connected := true } :=
        { he with connected := rfl }
      split at h <;> cases h <;> rename_i hs <;>
        obtain ⟨e₃, w₃, hs', he₃, hw₃⟩ := matched_setup hl hF hon hw₂ hs <;> simp only [hs']
      · exact ⟨e₃, w₃, rfl, he₃, hw₃⟩
      · exact ⟨_, _, rfl, { he₃ with connected := rfl }, hw₃.close hl.toKeeps⟩

/-! ## Driving -/

theorem matched_awaitAdmission (hl : l.Follows F) (hF : F n n')
    (he : e.Alike (l.masks depth) e') (hw : w.Alike l depth w') {backoff : Nat}
    {r : Except EngineError Unit} (h : e.awaitAdmission backoff n w = some (r, e₁, w₁)) :
    Matched l depth r e₁ w₁ (e'.awaitAdmission backoff n' w') := by
  induction n generalizing n' e e' w w' with
  | zero => simp [awaitAdmission] at h
  | succ n ih =>
    obtain ⟨m, rfl, hm⟩ := hl.fuel hF
    simp only [awaitAdmission] at h ⊢
    split at h
    · cases h
    all_goals
      rename_i heq
      obtain ⟨e₂, w₂, heq', he₂, hw₂⟩ := matched_beginRun hl hm he hw heq
      simp only [heq', he₂.isPending]
    · cases h
      exact ⟨e₂, w₂, rfl, he₂, hw₂⟩
    · split at h <;> rename_i hp
      · rw [if_pos hp]
        exact ih hm he₂ (hw₂.sleep _) h
      · cases h
        exact ⟨e₂, w₂, by rw [if_neg hp], he₂, hw₂⟩

variable {body body' : Invoke}

theorem matched_invoke (hk : l.Keeps) (hb : body.Follows l body')
    (he : e.Alike (l.masks depth) e') (hw : w.Alike l depth w') {outcome : Except Failure Json}
    (h : e.invoke body w = some (outcome, e₁, w₁)) :
    Matched l depth outcome e₁ w₁ (e'.invoke body' w') := by
  have hscope := he.scope
  simp only [invoke, he.parameters, he.invocations] at h ⊢
  generalize e.scope = scope at h hscope
  generalize e'.scope = scope' at hscope ⊢
  cases hscope with
  | none => cases h
  | some hs =>
    rename_i scope scope'
    have hentered : (e.enter scope w).Alike l (depth + 1) (e'.enter scope' w') := by
      rw [enter, enter, he.parameters]
      exact (hw.record hk _).push hs
    simp only at h ⊢
    split at h
    · cases h
    · rename_i outcome inside hinside
      cases h
      obtain ⟨inside', hinside', hin⟩ := hb hentered hinside
      simp only [hinside']
      exact ⟨_, _, rfl, { he with parameters := rfl, scope := hin.pop.1, invocations := rfl },
        hin.pop.2.record hk _⟩

theorem matched_attempt (hl : l.Follows F) (hF : F n n') (hb : body.Follows l body')
    (he : e.Alike (l.masks depth) e') (hw : w.Alike l depth w')
    {r : Except EngineError (Option Json)} (h : e.attempt body n w = some (r, e₁, w₁)) :
    Matched l depth r e₁ w₁ (e'.attempt body' n' w') := by
  simp only [attempt] at h ⊢
  split at h
  · cases h
  all_goals
    rename_i hi
    obtain ⟨e₂, w₂, hi', he₂, hw₂⟩ := matched_invoke hl.toKeeps hb he hw hi
    simp only [hi']
  · split at h <;> cases h <;> rename_i heq <;>
      obtain ⟨e₃, w₃, heq', he₃, hw₃⟩ := matched_handleSuccess hl hF he₂ hw₂ heq <;>
      exact ⟨e₃, w₃, by simp only [heq'], he₃, hw₃⟩
  · split at h <;> cases h <;> rename_i heq <;>
      obtain ⟨e₃, w₃, heq', he₃, hw₃⟩ := matched_handleException hl hF he₂ hw₂ heq <;>
      exact ⟨e₃, w₃, by simp only [heq'], he₃, hw₃⟩

theorem matched_attempts (hl : l.Follows F) (hF : F n n') (hb : body.Follows l body')
    (he : e.Alike (l.masks depth) e') (hw : w.Alike l depth w') {returnType : ReturnType}
    {r : Except EngineError (Option Json)}
    (h : e.attempts body returnType n w = some (r, e₁, w₁)) :
    Matched l depth r e₁ w₁ (e'.attempts body' returnType n' w') := by
  induction n generalizing n' e e' w w' with
  | zero => simp [attempts] at h
  | succ n ih =>
    obtain ⟨m, rfl, hm⟩ := hl.fuel hF
    simp only [attempts, he.isRunning] at h ⊢
    split at h
    · rename_i hr
      cases h
      exact ⟨e', w', by rw [if_pos hr], he, hw⟩
    · rename_i hr
      rw [if_neg hr]
      split at h
      · cases h
      all_goals
        rename_i ha
        obtain ⟨e₂, w₂, ha', he₂, hw₂⟩ := matched_attempt hl hm hb he hw ha
        simp only [ha']
      · cases h
        exact ⟨e₂, w₂, rfl, he₂, hw₂⟩
      · split at h <;> rename_i hv
        · cases h
          exact ⟨e₂, w₂, by rw [if_pos hv], he₂, hw₂⟩
        · rw [if_neg hv]
          exact ih hm he₂ hw₂ h

theorem matched_drive (hl : l.Follows F) (hF : F n n') (hb : body.Follows l body')
    (he : e.Alike (l.masks depth) e') (hw : w.Alike l depth w') {options : RunOptions}
    {r : Except EngineError RunOutput} (h : e.drive n body options w = some (r, e₁, w₁)) :
    Matched l depth r e₁ w₁ (e'.drive n' body' options w') := by
  simp only [drive] at h ⊢
  split at h
  · cases h
  all_goals
    rename_i ha
    obtain ⟨e₂, w₂, ha', he₂, hw₂⟩ := matched_awaitAdmission hl hF he hw ha
    simp only [ha']
  · cases h
    exact ⟨e₂, w₂, rfl, he₂, hw₂⟩
  · split at h <;> cases h <;> rename_i hatt <;>
      obtain ⟨e₃, w₃, hatt', he₃, hw₃⟩ := matched_attempts hl hF hb he₂ hw₂ hatt <;>
      exact ⟨e₃, w₃, by simp only [hatt', he₃.output], he₃, hw₃⟩

theorem alike_finish (hk : l.Keeps) (he : e.Alike (l.masks depth) e') (hw : w.Alike l depth w') :
    (e.finish w).2.Alike l depth (e'.finish w').2 := by
  have hscope := he.scope
  simp only [finish, he.connected, he.state?]
  split
  · exact hw
  · refine World.Alike.close hk ?_
    generalize e.scope = scope at hscope ⊢
    generalize e'.scope = scope' at hscope ⊢
    cases hscope with
    | none =>
      cases e.state? with
      | none => exact hw
      | some state => exact hw.report hk state
    | some hs =>
      have hsettled := hw.settle hk hs.group
      cases e.state? with
      | none => exact hsettled
      | some state => exact hsettled.report hk state

/-- **A run and its counterpart come to the same.** -/
theorem exists_execute_alike (hl : l.Follows F) (hF : F n n') (hb : body.Follows l body')
    (he : e.Alike (l.masks depth) e') (hw : w.Alike l depth w') {options : RunOptions}
    {outcome : Except EngineError RunOutput}
    (h : e.execute n body options w = some (outcome, w₁)) :
    ∃ w₁', e'.execute n' body' options w' = some (outcome, w₁') ∧ w₁.Alike l depth w₁' := by
  simp only [execute] at h ⊢
  split at h
  · cases h
  all_goals
    rename_i hs
    obtain ⟨e₂, w₂, hs', he₂, hw₂⟩ := matched_start hl hF he hw hs
    simp only [hs']
  · cases h
    exact ⟨w₂, rfl, hw₂⟩
  · rw [he₂.isNone_scope]
    split at h <;> rename_i hscope
    · cases h
      rw [if_pos hscope]
      exact ⟨_, rfl, alike_finish hl.toKeeps he₂ hw₂⟩
    · rw [if_neg hscope]
      split at h
      · cases h
      · rename_i hd
        cases h
        obtain ⟨e₃, w₃, hd', he₃, hw₃⟩ := matched_drive hl hF hb he₂ hw₂ hd
        simp only [hd']
        exact ⟨_, rfl, alike_finish hl.toKeeps he₃ hw₃⟩

end Engine

/-! ## Requests -/

namespace World

/-- What comes of a request in a world that has the client for it: the outcome, and the world before
the caller goes on. -/
def carryOut (limit : Nat) (body : Invoke) (flow : Flow) (request : RunRequest) (w : World) :
    Option (Except EngineError RunOutput × World) :=
  match w.board request.entry with
  | (.error error, left) => some (.error (.client error), left)
  | (.ok (), entered) =>
    (engineFor flow request).execute limit body request.options entered

/-- What the caller in `w` gets when this came of its request. -/
def handOver (w : World) (request : RunRequest) (x : Except EngineError RunOutput × World) :
    RunReply × World :=
  ({ outcome := x.1, client := x.2.client }, w.alight request x.2)

variable {l : Likeness} {F : Nat → Nat → Prop} {depth n n' limit : Nat} {w w' v : World}
  {body body' : Invoke} {flow : Flow} {request : RunRequest}

theorem runFlow_eq {client : Client} (hc : w.clientFor request.options = .ok client) :
    w.runFlow limit body flow request =
      ({ w with client }.carryOut limit body flow request).map (w.handOver request) := by
  simp only [runFlow, carryOut, hc]
  cases { w with client }.board request.entry with
  | mk r entered =>
    cases r with
    | error error => rfl
    | ok =>
      dsimp only
      cases (engineFor flow request).execute limit body request.options entered <;> rfl

theorem Alike.board (hk : l.Keeps) (hw : w.Alike l depth w') (entry : Entry) :
    Agree l depth (w.board entry) (w'.board entry) := by
  cases entry with
  | await => exact ⟨rfl, hw⟩
  | block =>
    obtain ⟨hr, hv⟩ := hw.fork hk
    simp only [World.board, hw.onRuntime]
    split
    · exact ⟨hr, { hv with onRuntime := rfl }⟩
    · exact ⟨rfl, { hw with onRuntime := rfl }⟩

theorem exists_carryOut_alike (hl : l.Follows F) (hF : F n n') (hb : body.Follows l body')
    (hw : w.Alike l depth w') {outcome : Except EngineError RunOutput}
    (h : w.carryOut n body flow request = some (outcome, v)) :
    ∃ v', w'.carryOut n' body' flow request = some (outcome, v') ∧ v.Alike l depth v' := by
  simp only [carryOut] at h ⊢
  split at h <;> rename_i heq <;>
    obtain ⟨entered', heq', hentered⟩ := (hw.board hl.toKeeps _).exists heq <;> rw [heq']
  · cases h
    exact ⟨_, rfl, hentered⟩
  · exact Engine.exists_execute_alike hl hF hb (.refl ..) hentered h

/-- Whether a request gets the client of the enclosing run. -/
def inherits (w : World) (request : RunRequest) : Bool :=
  request.options.client.isNone && !w.scopes.isEmpty

theorem Alike.inherits (hw : w.Alike l depth w') (request : RunRequest) :
    w'.inherits request = w.inherits request := by
  rcases hw.scopes_cases with ⟨hs, hs'⟩ | ⟨_, _, _, _, hs, hs', _⟩ <;>
    simp [World.inherits, hs, hs']

theorem Alike.clientFor (hw : w.Alike l depth w') (hi : w.inherits request = false) :
    w'.clientFor request.options = w.clientFor request.options := by
  simp only [World.clientFor, hw.defaultClient]
  cases hc : request.options.client with
  | some client => rfl
  | none =>
    have hs : w.scopes = [] := by simpa [World.inherits, hc] using hi
    have hs' : w'.scopes = [] := by simpa [hs] using hw.scopes.length
    simp [hs, hs']

/-- The run had the client of the enclosing one. -/
theorem Alike.alight_of_inherits {left left' : World} (hi : w.inherits request)
    (hw : w.Alike l depth w') (hleft : left.Alike l depth left') :
    (w.alight request left).Alike l depth (w'.alight request left') := by
  have hi' := (hw.inherits request).trans hi
  rw [World.inherits] at hi hi'
  simp only [World.alight, hi, hi', if_true]
  cases request.entry with
  | await => exact hleft
  | block => exact { hleft with onRuntime := hw.onRuntime }

/-- The run had a client of its own. -/
theorem Alike.alight_of_not_inherits {l' : Likeness} {left left' : World}
    (hi : w.inherits request = false) (hw : w.Alike l depth w') (hleft : left.Alike l' depth left')
    (he : l.events = l'.events := by rfl) (ha : l.apart = l'.apart := by rfl) :
    (w.alight request left).Alike l depth (w'.alight request left') := by
  have hi' := (hw.inherits request).trans hi
  rw [World.inherits] at hi hi'
  simp only [World.alight, hi, hi', Bool.false_eq_true, if_false]
  cases request.entry with
  | await => exact hleft.withClient hw.client he ha
  | block => exact { hleft.withClient hw.client he ha with onRuntime := hw.onRuntime }

theorem clientFor_of_inherits (hi : w.inherits request) :
    w.clientFor request.options = .ok w.client := by
  simp only [inherits, Bool.and_eq_true, Option.isNone_iff_eq_none, Bool.not_eq_true'] at hi
  simp [World.clientFor, hi.1, hi.2]

/-- The enclosing run goes on with the client as the nested run left it. -/
theorem client_alight_of_inherits {left : World} (hi : w.inherits request) :
    (w.alight request left).client = left.client := by
  rw [inherits] at hi
  simp only [alight, hi, if_true]
  cases request.entry <;> rfl

/-- Inside of a run there always is a client. -/
theorem exists_clientFor (hd : w.scopes.length = depth + 1) (options : RunOptions) :
    ∃ client, w.clientFor options = .ok client := by
  obtain ⟨scope, rest, hs⟩ := List.exists_cons_of_length_eq_add_one hd
  cases hc : options.client <;> simp [World.clientFor, hs, hc]

/-- A request that gets the client of the enclosing run comes to the same in both executions. -/
theorem exists_runFlow_alike_of_inherits (hl : l.Follows F) (hF : F n n')
    (hb : body.Follows l body') (hi : w.inherits request) (hw : w.Alike l depth w')
    {reply : RunReply} (h : w.runFlow n body flow request = some (reply, v)) :
    ∃ reply' v', w'.runFlow n' body' flow request = some (reply', v') ∧ v.Alike l depth v' ∧
      reply.outcome = reply'.outcome ∧ l.client reply.client reply'.client := by
  rw [runFlow_eq (clientFor_of_inherits hi), Option.map_eq_some_iff] at h
  obtain ⟨⟨outcome, left⟩, hcarry, hhand⟩ := h
  cases hhand
  obtain ⟨left', hcarry', hleft⟩ := exists_carryOut_alike hl hF hb hw hcarry
  refine ⟨(w'.handOver request (outcome, left')).1, _, ?_, hw.alight_of_inherits hi hleft, rfl,
    hleft.client⟩
  rw [runFlow_eq (clientFor_of_inherits ((hw.inherits request).trans hi)), hcarry']
  rfl

/-- So does one that has a client of its own, and its reply is the same. -/
theorem exists_runFlow_alike_of_not_inherits (hl : l.Follows F) (hF : F n n')
    (hb : body.Follows l.exact body') (hi : w.inherits request = false) {client : Client}
    (hc : w.clientFor request.options = .ok client) (hw : w.Alike l depth w') {reply : RunReply}
    (h : w.runFlow n body flow request = some (reply, v)) :
    ∃ v', w'.runFlow n' body' flow request = some (reply, v') ∧ v.Alike l depth v' := by
  rw [runFlow_eq hc, Option.map_eq_some_iff] at h
  obtain ⟨⟨outcome, left⟩, hcarry, hhand⟩ := h
  cases hhand
  have hentered : { w with client }.Alike l.exact depth { w' with client } := hw.withClient rfl
  obtain ⟨left', hcarry', hleft⟩ := exists_carryOut_alike hl.exact hF hb hentered hcarry
  have hsame : left.client = left'.client := hleft.client
  refine ⟨w'.alight request left', ?_, hw.alight_of_not_inherits hi hleft⟩
  rw [runFlow_eq ((hw.clientFor hi).trans hc), hcarry', hsame]
  rfl

end World

/-! ## Programs -/

namespace Program

/-- The program proposes no states itself, nor do the bodies of the flows that it runs. -/
def Silent : Program → Prop
  | done _ => True
  | perform action next => action.proposes = false ∧ ∀ r, (next r).Silent
  | runFlow _ body _ next => (∀ n parameters, (body n parameters).Silent) ∧ ∀ r, (next r).Silent

/-- The program goes on in the same way after a nested run if the client that the reply brings along
differs only as `S` says, and so do the bodies of the flows that it runs. -/
def Respects (S : Client → Client → Prop) : Program → Prop
  | done _ => True
  | perform _ next => ∀ r, (next r).Respects S
  | runFlow _ body request next =>
    (∀ n parameters, (body n parameters).Respects S) ∧ (∀ r, (next r).Respects S) ∧
    (request.options.client = none → ∀ r r', r.outcome = r'.outcome → S r.client r'.client →
      next r = next r')

/-- No program tells equal replies apart. -/
theorem respects_eq (p : Program) : p.Respects Eq := by
  induction p with
  | done => trivial
  | perform action next ih => exact ih
  | runFlow flow body request next ihb ih =>
    refine ⟨ihb, ih, fun _ r r' ho hc => ?_⟩
    cases r
    cases r'
    cases ho
    cases hc
    rfl

variable {l : Likeness} {F : Nat → Nat → Prop} {S : Client → Client → Prop} {depth n n' : Nat}
  {w w' v : World} {outcome : Except Failure Json}

/-- **A program does the same in both executions.** -/
theorem exists_run_alike {p : Program} (hl : l.Follows F) (hF : F n n')
    (hS : ∀ {c c'}, l.client c c' → S c c') (hp : p.Respects S) (ha : l.Answers ∨ p.Silent)
    (hw : w.Alike l (depth + 1) w') (h : p.run n w = some (outcome, v)) :
    ∃ v', p.run n' w' = some (outcome, v') ∧ v.Alike l (depth + 1) v' := by
  induction p generalizing l S depth w w' v outcome with
  | done =>
    cases h
    exact ⟨w', rfl, hw⟩
  | perform action next ih =>
    have hact : action.proposes → l.Answers := by
      intro hpro
      rcases ha with ha | ha
      · exact ha
      · rw [ha.1] at hpro; cases hpro
    obtain ⟨hr, hv⟩ := hw.perform action hact
    simp only [Program.run, hr] at h ⊢
    exact ih _ hl hS (hp _) (ha.imp_right fun ha => ha.2 _) hv h
  | runFlow flow body request next ihb ih =>
    obtain ⟨hbody, hnext, htell⟩ := hp
    simp only [Program.run] at h ⊢
    split at h
    · cases h
    · rename_i reply left hrun
      have hb : Invoke.Follows l (fun k parameters inside => (body k parameters).run n inside)
          fun k parameters inside => (body k parameters).run n' inside :=
        fun k parameters _ _ _ _ _ hw hrun =>
          ihb k parameters hl hS (hbody ..) (ha.imp_right fun ha => ha.1 ..) hw hrun
      have hx : Invoke.Follows l.exact (fun k parameters inside => (body k parameters).run n inside)
          fun k parameters inside => (body k parameters).run n' inside :=
        fun k parameters _ _ _ _ _ hw hrun => ihb k parameters hl.exact (S := Eq) (fun h => h)
          (respects_eq _) (.inl l.answers_exact) hw hrun
      cases hi : w.inherits request with
      | true =>
        obtain ⟨reply', left', hrun', hleft, ho, hc⟩ :=
          World.exists_runFlow_alike_of_inherits hl hF hb hi hw hrun
        have hnone : request.options.client = none := by simp_all [World.inherits]
        simp only [hrun', ← htell hnone _ _ ho (hS hc)]
        exact ih _ hl hS (hnext _) (ha.imp_right fun ha => ha.2 _) hleft h
      | false =>
        obtain ⟨client, hc⟩ := World.exists_clientFor hw.depth request.options
        obtain ⟨left', hrun', hleft⟩ :=
          World.exists_runFlow_alike_of_not_inherits hl hF hx hi hc hw hrun
        simp only [hrun']
        exact ih _ hl hS (hnext _) (ha.imp_right fun ha => ha.2 _) hleft h

end Program

/-- A body does the same in both executions. -/
theorem Body.follows_invoke {l : Likeness} {F : Nat → Nat → Prop} {S : Client → Client → Prop}
    {n n' : Nat} {body : Body} (hl : l.Follows F) (hF : F n n')
    (hS : ∀ {c c'}, l.client c c' → S c c') (hb : ∀ k parameters, (body k parameters).Respects S)
    (ha : l.Answers ∨ ∀ k parameters, (body k parameters).Silent) :
    (body.invoke n).Follows l (body.invoke n') := fun k parameters _ _ _ _ _ hw h =>
  Program.exists_run_alike hl hF hS (hb k parameters) (ha.imp_right fun h => h k parameters) hw h

/-! ## Larger bounds -/

/-- The likeness of two executions that differ in nothing but their clocks. -/
def Likeness.same : Likeness := { client := Eq, events := Eq }

end RunEngine
