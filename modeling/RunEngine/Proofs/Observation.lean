import RunEngine.Proofs.Frame

/-!
# What a run gets to see

Neither an engine nor a body gets to see background tasks, the clock or the journal. `World.seen` is
what remains of a world without them, and `Engine.seen` what remains of an engine. Operations that
find the same to see answer the same and leave the same to see. This is shown for one operation
after the other, from a call on the client to the whole of a run (`Engine.exists_execute_seen`).

So a program goes on in the same way if other tasks are left in the background, whether they panic
or not (`Program.exists_run_seen`), and it makes no difference to the reply to a request
(**`World.exists_runFlow_seen`**).
-/

namespace RunEngine

/-- The scope without its background tasks. -/
def Scope.seen (s : Scope) : Scope := { s with group := {} }

@[simp] theorem Scope.seen_comp_seen : Scope.seen ∘ Scope.seen = Scope.seen := rfl

/-! ## Worlds -/

namespace World

variable {w w' v : World}

/-- The world without the background tasks, the clock and the journal. -/
def seen (w : World) : World :=
  { w with scopes := w.scopes.map Scope.seen, clock := 0, journal := {} }

/-- Two operations had the same answer and left the same to see. -/
def SameSeen {α : Type} (x y : α × World) : Prop := y.1 = x.1 ∧ y.2.seen = x.2.seen

theorem SameSeen.exists {α : Type} {r : α} {x y : α × World} (h : SameSeen x y) (hx : x = (r, v)) :
    ∃ v', y = (r, v') ∧ v'.seen = v.seen := by
  subst hx
  exact ⟨y.2, Prod.ext h.1 rfl, h.2⟩

/-- An operation goes by what is to be seen of a world. -/
def Sees {α : Type} (op : World → α × World) : Prop := ∀ w, SameSeen (op w) (op w.seen)

theorem Sees.same {α : Type} {op : World → α × World} (hop : Sees op) (h : w'.seen = w.seen) :
    SameSeen (op w) (op w') := by
  obtain ⟨hr, hv⟩ := hop w
  obtain ⟨hr', hv'⟩ := hop w'
  rw [h] at hr' hv'
  exact ⟨hr'.symm.trans hr, hv'.symm.trans hv⟩

theorem now_of_seen (h : w'.seen = w.seen) : w'.now = w.now := (congrArg now h :)

/-! ### Calls -/

theorem sees_connect : Sees connect :=
  fun w => ⟨rfl, by simp [connect, World.record, seen]⟩

theorem sees_propose (id : Uuid) (s : State) : Sees (·.propose id s) :=
  fun w => ⟨rfl, by simp [propose, World.record, seen]⟩

theorem sees_createTaskRun (request : TaskRunRequest) : Sees (·.createTaskRun request) :=
  fun w => ⟨rfl, by simp [createTaskRun, World.record, seen]⟩

theorem sees_createFlowRun (request : FlowRunRequest) : Sees (·.createFlowRun request) :=
  fun w => ⟨rfl, by simp [createFlowRun, World.record, seen]⟩

theorem seen_sleep (h : w'.seen = w.seen) (duration : Nat) :
    (w'.sleep duration).seen = (w.sleep duration).seen := h

theorem seen_close (h : w'.seen = w.seen) : w'.close.seen = w.close.seen :=
  congrArg (fun v => { v with client := v.client.close }) h

theorem sees_board (entry : Entry) : Sees (·.board entry) := by
  intro w
  have hon : w.seen.onRuntime = w.onRuntime := rfl
  cases entry with
  | await => exact ⟨rfl, by simp [board, seen]⟩
  | block =>
    simp only [board, hon]
    split <;> exact ⟨rfl, by simp [fork, World.record, seen]⟩

/-- On a caller that was blocked the clock of the run makes no difference. -/
theorem seen_alight {left left' : World} (h : w'.seen = w.seen) (hleft : left'.seen = left.seen)
    (request : RunRequest) : (w'.alight request left').seen = (w.alight request left).seen := by
  have halight (w left : World) :
      (w.alight request left).seen = (w.seen.alight request left.seen).seen := by
    have hempty : w.seen.scopes.isEmpty = w.scopes.isEmpty := by simp [seen]
    simp only [alight, hempty]
    cases request.entry <;> dsimp only <;> split <;> simp [seen, Scope.seen, Function.comp_def]
  rw [halight w, halight w', h, hleft]

theorem clientFor_seen (h : w'.seen = w.seen) (options : RunOptions) :
    w'.clientFor options = w.clientFor options := by
  have hclient (w : World) : w.clientFor options = w.seen.clientFor options := by
    simp [clientFor, seen]
  rw [hclient w, hclient w', h]

/-! ### Scopes -/

/-- Both worlds are outside of any run, or the same is to be seen of their innermost scopes. -/
theorem scopes_cases_seen (h : w'.seen = w.seen) : w.scopes = [] ∧ w'.scopes = [] ∨
    ∃ s s' rest rest', w.scopes = s :: rest ∧ w'.scopes = s' :: rest' ∧ s'.seen = s.seen := by
  have hscopes : w'.scopes.map Scope.seen = w.scopes.map Scope.seen := congrArg scopes h
  cases hs : w.scopes with
  | nil =>
    rw [hs, List.map_nil, List.map_eq_nil_iff] at hscopes
    exact .inl ⟨rfl, hscopes⟩
  | cons s rest =>
    rw [hs, List.map_cons] at hscopes
    obtain ⟨s', rest', hs', hseen, -⟩ := List.map_eq_cons_iff.1 hscopes
    exact .inr ⟨s, s', rest, rest', rfl, hs', hseen⟩

theorem seen_withScope {s s' : Scope} (h : w'.seen = w.seen) (hs : s'.seen = s.seen) :
    (w'.withScope s').seen = (w.withScope s).seen := by
  have hwith (w : World) (s : Scope) :
      (w.withScope s).seen = { w.seen with scopes := s.seen :: w.seen.scopes.drop 1 } := by
    simp [withScope, seen]
  rw [hwith w, hwith w', h, hs]

theorem seen_report (h : w'.seen = w.seen) (state : State) :
    (w'.report state).seen = (w.report state).seen := by
  rcases scopes_cases_seen h with ⟨hs, hs'⟩ | ⟨s, s', rest, rest', hs, hs', hseen⟩
  · simpa only [report, hs, hs'] using h
  · have hchild : (s'.recordChild state).seen = (s.recordChild state).seen :=
      (congrArg (·.recordChild state) hseen :)
    have hreport := seen_withScope h hchild
    simp only [withScope, hs, hs', List.drop_one, List.tail_cons] at hreport
    simp only [report, hs, hs']
    exact hreport

/-! ### Actions -/

theorem sameSeen_inScope {α : Type} {act act' : Scope → α × World} (h : w'.seen = w.seen)
    (hact : ∀ s s' : Scope, s'.seen = s.seen → SameSeen (act s) (act' s')) :
    SameSeen (w.inScope act) (w'.inScope act') := by
  rcases scopes_cases_seen h with ⟨hs, hs'⟩ | ⟨s, s', rest, rest', hs, hs', hseen⟩
  · simp only [inScope, hs, hs']
    exact ⟨rfl, h⟩
  · obtain ⟨hr, hv⟩ := hact s s' hseen
    simp only [inScope, hs, hs', hr]
    exact ⟨rfl, hv⟩

/-- A body does not see which task it leaves in the background. -/
theorem sameSeen_spawn (h : w'.seen = w.seen) (name name' : String) (delay delay' : Nat)
    (panics panics' : Bool) (spawns spawns' : List TaskPlan) :
    SameSeen (w.perform (.spawn name delay panics spawns))
      (w'.perform (.spawn name' delay' panics' spawns')) :=
  sameSeen_inScope h fun _ _ hs => ⟨rfl, seen_withScope h hs⟩

/-- **A body is told only what is to be seen.** -/
theorem sameSeen_perform (h : w'.seen = w.seen) (action : Action) :
    SameSeen (w.perform action) (w'.perform action) := by
  cases action with
  | log | snapshot => exact sameSeen_inScope h fun _ _ _ => ⟨rfl, h⟩
  | print =>
    refine sameSeen_inScope h fun s s' _ => ⟨rfl, ?_⟩
    dsimp only
    split <;> split <;> exact h
  | look => exact sameSeen_inScope h fun _ _ hs => ⟨(congrArg Scope.view hs :), h⟩
  | note | sleep | occupy => exact ⟨rfl, h⟩
  | dynamicKey taskKey =>
    refine sameSeen_inScope h fun s s' hs => ⟨?_, seen_withScope h ?_⟩
    · exact congrArg (fun s => (s.nextDynamicKey taskKey).1) hs
    · exact congrArg (fun s => (s.nextDynamicKey taskKey).2) hs
  | spawn => exact sameSeen_spawn h ..
  | propose state =>
    refine sameSeen_inScope h fun s s' hs => ?_
    have hid : s'.runId = s.runId := (congrArg Scope.runId hs :)
    have hpropose := (sees_propose s.runId state).same h
    rw [hid]
    exact ⟨hpropose.1, hpropose.2⟩

end World

/-! ## Engines -/

/-- A body does what the other one does where the same is to be seen. -/
def Invoke.Mimics (body body' : Invoke) : Prop :=
  ∀ ⦃invoked : Nat⦄ ⦃parameters : Parameters⦄ ⦃w w' v : World⦄ ⦃outcome : Except Failure Json⦄,
    w'.seen = w.seen → body invoked parameters w = some (outcome, v) →
    ∃ v', body' invoked parameters w' = some (outcome, v') ∧ v'.seen = v.seen

namespace Engine

/-- The engine without its background tasks. -/
def seen (e : Engine) : Engine := { e with group := none, scope := e.scope.map Scope.seen }

/-- The counterpart of a step that had the answer `r` and left `e` and `w`. -/
def Recurs {α : Type} (r : α) (e : Engine) (w : World) (x : Option (α × Engine × World)) : Prop :=
  ∃ e' w', x = some (r, e', w') ∧ e'.seen = e.seen ∧ w'.seen = w.seen

variable {e e' e₁ : Engine} {w w' w₁ : World} {n : Nat} {s : State} {body body' : Invoke}

theorem flow_of_seen (h : e'.seen = e.seen) : e'.flow = e.flow := (congrArg flow h :)

theorem parameters_of_seen (h : e'.seen = e.seen) : e'.parameters = e.parameters :=
  (congrArg parameters h :)

theorem record_of_seen (h : e'.seen = e.seen) : e'.record = e.record := (congrArg record h :)

theorem connected_of_seen (h : e'.seen = e.seen) : e'.connected = e.connected :=
  (congrArg connected h :)

theorem state?_of_seen (h : e'.seen = e.seen) : e'.state? = e.state? := (congrArg state? h :)

theorem isPending_of_seen (h : e'.seen = e.seen) : e'.isPending = e.isPending :=
  (congrArg isPending h :)

theorem isRunning_of_seen (h : e'.seen = e.seen) : e'.isRunning = e.isRunning :=
  (congrArg isRunning h :)

theorem output_of_seen (h : e'.seen = e.seen) (options : RunOptions) :
    e'.output options = e.output options := (congrArg (·.output options) h :)

theorem isNone_scope_of_seen (h : e'.seen = e.seen) : e'.scope.isNone = e.scope.isNone := by
  have hscope : e'.scope.map Scope.seen = e.scope.map Scope.seen := (congrArg scope h :)
  rw [← Option.isNone_map, hscope, Option.isNone_map]

theorem seen_apply (h : e'.seen = e.seen) (s : State) : (e'.apply s).seen = (e.apply s).seen := by
  have happly (e : Engine) : (e.apply s).seen = (e.seen.apply s).seen := by
    cases hs : e.scope <;> simp [apply, seen, hs, Scope.seen]
  rw [happly e, happly e', h]

theorem seen_withRecord (h : e'.seen = e.seen) (record : Option FlowRun) :
    Engine.seen { e' with record } = Engine.seen { e with record } :=
  (congrArg (fun e => { e with record }) h :)

theorem seen_openScope (h : e'.seen = e.seen) : e'.openScope.seen = e.openScope.seen := by
  have hopen (e : Engine) : e.openScope.seen = e.seen.openScope.seen := by
    cases hr : e.record <;> simp [openScope, seen, hr, Scope.seen]
  rw [hopen e, hopen e', h]

/-! ### Proposals -/

theorem exists_proposeUntilAnswered_seen {id : Uuid} {v : World} {r : Except EngineError State}
    (hw : w'.seen = w.seen) (h : proposeUntilAnswered id s n w = some (r, v)) :
    ∃ v', proposeUntilAnswered id s n w' = some (r, v') ∧ v'.seen = v.seen := by
  induction n generalizing w w' with
  | zero => simp [proposeUntilAnswered] at h
  | succ n ih =>
    have hpropose := (World.sees_propose id s).same hw
    simp only [proposeUntilAnswered] at h ⊢
    split at h <;> rename_i heq <;> obtain ⟨v', heq', hv⟩ := hpropose.exists heq <;>
      simp only [heq']
    case h_3 => exact ih (World.seen_sleep hv _) h
    all_goals
      cases h
      exact ⟨v', rfl, hv⟩

theorem recurs_setState (he : e'.seen = e.seen) (hw : w'.seen = w.seen)
    {r : Except EngineError State} (h : e.setState n w s = some (r, e₁, w₁)) :
    Recurs r e₁ w₁ (e'.setState n w' s) := by
  have hstanding : e'.standing = e.standing := (congrArg standing he :)
  simp only [setState, hstanding, connected_of_seen he, record_of_seen he] at h ⊢
  split at h
  · cases h
    exact ⟨e', w', rfl, he, hw⟩
  · split at h
    · rename_i hc
      cases h
      exact ⟨e', w', by rw [if_pos hc], he, hw⟩
    · rename_i hc
      rw [if_neg hc]
      split at h
      · cases h
        exact ⟨e', w', rfl, he, hw⟩
      · split at h <;> cases h <;> rename_i hp <;>
          obtain ⟨w₁', hp', hw₁⟩ := exists_proposeUntilAnswered_seen hw hp <;> simp only [hp']
        · exact ⟨_, w₁', rfl, seen_apply he _, hw₁⟩
        · exact ⟨e', w₁', rfl, he, hw₁⟩

theorem recurs_beginRun (he : e'.seen = e.seen) (hw : w'.seen = w.seen)
    {r : Except EngineError State} (h : e.beginRun n w = some (r, e₁, w₁)) :
    Recurs r e₁ w₁ (e'.beginRun n w') := by
  rw [beginRun, World.now_of_seen hw]
  exact recurs_setState he hw h

theorem recurs_handleException (he : e'.seen = e.seen) (hw : w'.seen = w.seen) {failure : Failure}
    {message : Option String} {capture : Option ErrorCapture} {r : Except EngineError State}
    (h : e.handleException n w failure message capture = some (r, e₁, w₁)) :
    Recurs r e₁ w₁ (e'.handleException n w' failure message capture) := by
  rw [handleException, World.now_of_seen hw, flow_of_seen he]
  exact recurs_setState he hw h

theorem recurs_handleSuccess (he : e'.seen = e.seen) (hw : w'.seen = w.seen) {value : Json}
    {r : Except EngineError Json} (h : e.handleSuccess n w value = some (r, e₁, w₁)) :
    Recurs r e₁ w₁ (e'.handleSuccess n w' value) := by
  simp only [handleSuccess] at h ⊢
  rw [World.now_of_seen hw]
  split at h
  · cases h
  all_goals
    rename_i heq
    cases h
    obtain ⟨e₁', w₁', heq', he₁, hw₁⟩ := recurs_setState he hw heq
    exact ⟨e₁', w₁', by rw [heq'], he₁, hw₁⟩

/-! ### Starting -/

theorem sameSeen_link (he : e'.seen = e.seen) (hw : w'.seen = w.seen) :
    World.SameSeen (e.link w) (e'.link w') := by
  simp only [link, flow_of_seen he, parameters_of_seen he, World.now_of_seen hw]
  rcases World.scopes_cases_seen hw with ⟨hs, hs'⟩ | ⟨s, s', rest, rest', hs, hs', hseen⟩
  · simp only [hs, hs']
    exact ⟨rfl, hw⟩
  · have hkey : (s'.nextDynamicKey e.flow.taskKey).1 = (s.nextDynamicKey e.flow.taskKey).1 :=
      (congrArg (fun s => (s.nextDynamicKey e.flow.taskKey).1) hseen :)
    have hnext : (s'.nextDynamicKey e.flow.taskKey).2.seen =
        (s.nextDynamicKey e.flow.taskKey).2.seen :=
      (congrArg (fun s => (s.nextDynamicKey e.flow.taskKey).2) hseen :)
    have hid : (s'.nextDynamicKey e.flow.taskKey).2.runId =
        (s.nextDynamicKey e.flow.taskKey).2.runId := (congrArg Scope.runId hnext :)
    simp only [hs, hs', hkey, hid]
    split <;> rename_i heq <;>
      obtain ⟨v', heq', hv⟩ :=
        ((World.sees_createTaskRun _).same (World.seen_withScope hw hnext)).exists heq <;>
      rw [heq'] <;> exact ⟨rfl, hv⟩

theorem sameSeen_create (he : e'.seen = e.seen) (hw : w'.seen = w.seen) :
    World.SameSeen (e.create w) (e'.create w') := by
  have hlink := sameSeen_link he hw
  simp only [create, flow_of_seen he, parameters_of_seen he]
  split <;> rename_i heq <;> obtain ⟨v', heq', hv⟩ := hlink.exists heq <;> rw [heq']
  · exact ⟨rfl, hv⟩
  · simp only [World.now_of_seen hv]
    split <;> rename_i hc <;>
      obtain ⟨x', hc', hx⟩ := ((World.sees_createFlowRun _).same hv).exists hc <;>
      rw [hc'] <;> exact ⟨rfl, hx⟩

theorem recurs_ensureRecord (he : e'.seen = e.seen) (hw : w'.seen = w.seen)
    {r : Except EngineError FlowRun} (h : e.ensureRecord w = (r, e₁, w₁)) :
    Recurs r e₁ w₁ (some (e'.ensureRecord w')) := by
  have hcreate := sameSeen_create he hw
  simp only [ensureRecord, record_of_seen he] at h ⊢
  split at h
  · cases h
    exact ⟨e', w', rfl, he, hw⟩
  · split at h <;> cases h <;> rename_i heq <;>
      obtain ⟨w₁', heq', hw₁⟩ := hcreate.exists heq <;> rw [heq']
    · exact ⟨_, w₁', rfl, seen_withRecord he _, hw₁⟩
    · exact ⟨e', w₁', rfl, he, hw₁⟩

theorem recurs_checkParameters (he : e'.seen = e.seen) (hw : w'.seen = w.seen)
    {r : Except EngineError Unit} (h : e.checkParameters n w = some (r, e₁, w₁)) :
    Recurs r e₁ w₁ (e'.checkParameters n w') := by
  simp only [checkParameters, flow_of_seen he, parameters_of_seen he] at h ⊢
  split at h
  · rename_i hv
    cases h
    exact ⟨e', w', by rw [if_pos hv], he, hw⟩
  · rename_i hv
    rw [if_neg hv]
    split at h
    · rename_i parameters _
      cases h
      have hset : Engine.seen { e' with parameters } = Engine.seen { e with parameters } :=
        (congrArg (fun e => { e with parameters }) he :)
      rw [flow_of_seen he] at hset
      exact ⟨_, w', rfl, hset, hw⟩
    · split at h <;> cases h <;> rename_i heq <;>
        obtain ⟨e₁', w₁', heq', he₁, hw₁⟩ := recurs_handleException he hw heq <;>
        simp only [heq']
      · exact ⟨e₁', w₁', rfl, he₁, hw₁⟩
      · rename_i held _
        exact ⟨_, w₁', rfl,
          (congrArg (fun e => { e with standing := .shortCircuited held }) he₁ :), hw₁⟩

theorem recurs_setup (he : e'.seen = e.seen) (hw : w'.seen = w.seen)
    {r : Except EngineError Unit} (h : e.setup n w = some (r, e₁, w₁)) :
    Recurs r e₁ w₁ (e'.setup n w') := by
  simp only [setup] at h ⊢
  split at h <;> rename_i heq <;>
    obtain ⟨e₂, w₂, heq', he₂, hw₂⟩ := recurs_ensureRecord he hw heq <;>
    rw [Option.some_inj] at heq' <;> rw [heq']
  · cases h
    exact ⟨e₂, w₂, rfl, he₂, hw₂⟩
  · split at h <;> cases h <;> rename_i hc <;>
      obtain ⟨e₃, w₃, hc', he₃, hw₃⟩ := recurs_checkParameters he₂ hw₂ hc <;> simp only [hc']
    · exact ⟨e₃, w₃, rfl, he₃, hw₃⟩
    · exact ⟨_, w₃, rfl, seen_openScope he₃, hw₃⟩

theorem recurs_start (he : e'.seen = e.seen) (hw : w'.seen = w.seen)
    {r : Except EngineError Unit} (h : e.start n w = some (r, e₁, w₁)) :
    Recurs r e₁ w₁ (e'.start n w') := by
  have hconnect := World.sees_connect.same hw
  have hset {e e' : Engine} (he : e'.seen = e.seen) (connected : Bool) :
      Engine.seen { e' with connected } = Engine.seen { e with connected } :=
    (congrArg (fun e => { e with connected }) he :)
  simp only [start, connected_of_seen he] at h ⊢
  split at h
  · rename_i hc
    cases h
    exact ⟨e', w', by rw [if_pos hc], he, hw⟩
  · rename_i hc
    rw [if_neg hc]
    split at h <;> rename_i heq <;> obtain ⟨w₂, heq', hw₂⟩ := hconnect.exists heq <;> rw [heq']
    · cases h
      exact ⟨e', w₂, rfl, he, hw₂⟩
    · split at h <;> cases h <;> rename_i hs <;>
        obtain ⟨e₃, w₃, hs', he₃, hw₃⟩ := recurs_setup (hset he true) hw₂ hs <;> simp only [hs']
      · exact ⟨e₃, w₃, rfl, he₃, hw₃⟩
      · exact ⟨_, _, rfl, hset he₃ false, World.seen_close hw₃⟩

/-! ### Driving -/

theorem recurs_awaitAdmission (he : e'.seen = e.seen) (hw : w'.seen = w.seen) {backoff : Nat}
    {r : Except EngineError Unit} (h : e.awaitAdmission backoff n w = some (r, e₁, w₁)) :
    Recurs r e₁ w₁ (e'.awaitAdmission backoff n w') := by
  induction n generalizing e e' w w' with
  | zero => simp [awaitAdmission] at h
  | succ n ih =>
    simp only [awaitAdmission] at h ⊢
    split at h
    · cases h
    all_goals
      rename_i heq
      obtain ⟨e₂, w₂, heq', he₂, hw₂⟩ := recurs_beginRun he hw heq
      simp only [heq', isPending_of_seen he₂]
    · cases h
      exact ⟨e₂, w₂, rfl, he₂, hw₂⟩
    · split at h <;> rename_i hp
      · rw [if_pos hp]
        exact ih he₂ (World.seen_sleep hw₂ _) h
      · cases h
        exact ⟨e₂, w₂, by rw [if_neg hp], he₂, hw₂⟩

theorem seen_enter {scope scope' : Scope} (hw : w'.seen = w.seen)
    (hs : scope'.seen = scope.seen) : (e'.enter scope' w').seen = (e.enter scope w).seen := by
  have henter (e : Engine) (scope : Scope) (w : World) :
      (e.enter scope w).seen = { w.seen with scopes := scope.seen :: w.seen.scopes } := rfl
  rw [henter, henter, hw, hs]

/-- The engine takes back the scope that its body was given, and the world the others. -/
theorem seen_return {inside inside' : World} (he : e'.seen = e.seen)
    (hinside : inside'.seen = inside.seen) (invocations : Nat) :
    Engine.seen { e' with scope := inside'.scopes.head?, invocations } =
        Engine.seen { e with scope := inside.scopes.head?, invocations } ∧
      World.seen { inside' with scopes := inside'.scopes.tail } =
        World.seen { inside with scopes := inside.scopes.tail } := by
  have hhead : inside'.scopes.head?.map Scope.seen = inside.scopes.head?.map Scope.seen := by
    have hscopes : inside'.scopes.map Scope.seen = inside.scopes.map Scope.seen :=
      (congrArg World.scopes hinside :)
    rw [← List.head?_map, hscopes, List.head?_map]
  have hset (e : Engine) (scope : Option Scope) : Engine.seen { e with scope, invocations } =
      { e.seen with scope := scope.map Scope.seen, invocations } := rfl
  have hleave (w : World) : World.seen { w with scopes := w.scopes.tail } =
      { w.seen with scopes := w.seen.scopes.tail } := by simp [World.seen]
  rw [hset, hset, he, hhead, hleave, hleave, hinside]
  exact ⟨rfl, rfl⟩

theorem recurs_invoke (hb : body.Mimics body') (he : e'.seen = e.seen) (hw : w'.seen = w.seen)
    {outcome : Except Failure Json} (h : e.invoke body w = some (outcome, e₁, w₁)) :
    Recurs outcome e₁ w₁ (e'.invoke body' w') := by
  have hscope : e'.scope.map Scope.seen = e.scope.map Scope.seen := (congrArg scope he :)
  have hinvocations : e'.invocations = e.invocations := (congrArg invocations he :)
  obtain ⟨scope, inside, hs, hrun, rfl, rfl⟩ := exists_inside_of_invoke h
  rw [hs, Option.map_some] at hscope
  obtain ⟨scope', hs', hseen⟩ := Option.map_eq_some_iff.1 hscope
  have hentered : (e'.enter scope' w').seen = (e.enter scope w).seen := seen_enter hw hseen
  obtain ⟨inside', hrun', hinside⟩ := hb hentered hrun
  obtain ⟨he₁, hw₁⟩ := seen_return he hinside (e.invocations + 1)
  rw [← hinvocations, ← parameters_of_seen he] at hrun'
  rw [← hinvocations] at he₁ ⊢
  simp only [invoke, hs', hrun']
  exact ⟨_, _, rfl, he₁, hw₁⟩

theorem recurs_attempt (hb : body.Mimics body') (he : e'.seen = e.seen) (hw : w'.seen = w.seen)
    {r : Except EngineError (Option Json)} (h : e.attempt body n w = some (r, e₁, w₁)) :
    Recurs r e₁ w₁ (e'.attempt body' n w') := by
  simp only [attempt] at h ⊢
  split at h
  · cases h
  all_goals
    rename_i hi
    obtain ⟨e₂, w₂, hi', he₂, hw₂⟩ := recurs_invoke hb he hw hi
    simp only [hi']
  · split at h <;> cases h <;> rename_i heq <;>
      obtain ⟨e₃, w₃, heq', he₃, hw₃⟩ := recurs_handleSuccess he₂ hw₂ heq <;>
      exact ⟨e₃, w₃, by simp only [heq'], he₃, hw₃⟩
  · split at h <;> cases h <;> rename_i heq <;>
      obtain ⟨e₃, w₃, heq', he₃, hw₃⟩ := recurs_handleException he₂ hw₂ heq <;>
      exact ⟨e₃, w₃, by simp only [heq'], he₃, hw₃⟩

theorem recurs_attempts (hb : body.Mimics body') (he : e'.seen = e.seen) (hw : w'.seen = w.seen)
    {returnType : ReturnType} {r : Except EngineError (Option Json)}
    (h : e.attempts body returnType n w = some (r, e₁, w₁)) :
    Recurs r e₁ w₁ (e'.attempts body' returnType n w') := by
  induction n generalizing e e' w w' with
  | zero => simp [attempts] at h
  | succ n ih =>
    simp only [attempts, isRunning_of_seen he] at h ⊢
    split at h
    · rename_i hr
      cases h
      exact ⟨e', w', by rw [if_pos hr], he, hw⟩
    · rename_i hr
      rw [if_neg hr]
      split at h
      · cases h
      all_goals
        rename_i ha
        obtain ⟨e₂, w₂, ha', he₂, hw₂⟩ := recurs_attempt hb he hw ha
        simp only [ha']
      · cases h
        exact ⟨e₂, w₂, rfl, he₂, hw₂⟩
      · split at h <;> rename_i hv
        · cases h
          exact ⟨e₂, w₂, by rw [if_pos hv], he₂, hw₂⟩
        · rw [if_neg hv]
          exact ih he₂ hw₂ h

theorem recurs_drive (hb : body.Mimics body') (he : e'.seen = e.seen) (hw : w'.seen = w.seen)
    {options : RunOptions} {r : Except EngineError RunOutput}
    (h : e.drive n body options w = some (r, e₁, w₁)) :
    Recurs r e₁ w₁ (e'.drive n body' options w') := by
  simp only [drive] at h ⊢
  split at h
  · cases h
  all_goals
    rename_i ha
    obtain ⟨e₂, w₂, ha', he₂, hw₂⟩ := recurs_awaitAdmission he hw ha
    simp only [ha']
  · cases h
    exact ⟨e₂, w₂, rfl, he₂, hw₂⟩
  · split at h <;> cases h <;> rename_i hatt <;>
      obtain ⟨e₃, w₃, hatt', he₃, hw₃⟩ := recurs_attempts hb he₂ hw₂ hatt <;>
      exact ⟨e₃, w₃, by simp only [hatt', output_of_seen he₃], he₃, hw₃⟩

/-- The tasks that are waited for in the end make no difference to what is seen. -/
theorem seen_finish (he : e'.seen = e.seen) (hw : w'.seen = w.seen) :
    (e'.finish w').2.seen = (e.finish w).2.seen := by
  simp only [finish, connected_of_seen he, state?_of_seen he]
  split
  · exact hw
  · refine World.seen_close ?_
    cases e.state? with
    | none => cases e.scope <;> cases e'.scope <;> exact hw
    | some state =>
      refine World.seen_report ?_ state
      cases e.scope <;> cases e'.scope <;> exact hw

/-- **A run goes by what it gets to see.** -/
theorem exists_execute_seen (hb : body.Mimics body') (he : e'.seen = e.seen)
    (hw : w'.seen = w.seen) {options : RunOptions} {outcome : Except EngineError RunOutput}
    (h : e.execute n body options w = some (outcome, w₁)) :
    ∃ w₁', e'.execute n body' options w' = some (outcome, w₁') ∧ w₁'.seen = w₁.seen := by
  simp only [execute] at h ⊢
  split at h
  · cases h
  all_goals
    rename_i hs
    obtain ⟨e₂, w₂, hs', he₂, hw₂⟩ := recurs_start he hw hs
    simp only [hs']
  · cases h
    exact ⟨w₂, rfl, hw₂⟩
  · rw [isNone_scope_of_seen he₂]
    split at h <;> rename_i hscope
    · cases h
      rw [if_pos hscope]
      exact ⟨_, rfl, seen_finish he₂ hw₂⟩
    · rw [if_neg hscope]
      split at h
      · cases h
      · rename_i hd
        cases h
        obtain ⟨e₃, w₃, hd', he₃, hw₃⟩ := recurs_drive hb he₂ hw₂ hd
        simp only [hd']
        exact ⟨_, rfl, seen_finish he₃ hw₃⟩

end Engine

/-! ## Requests -/

namespace World

variable {w w' left : World} {limit : Nat} {body body' : Invoke} {flow : Flow}
  {request : RunRequest} {reply : RunReply}

/-- **A request goes by what is to be seen.** -/
theorem exists_runFlow_of_mimics (hb : body.Mimics body') (hw : w'.seen = w.seen)
    (h : w.runFlow limit body flow request = some (reply, left)) :
    ∃ left', w'.runFlow limit body' flow request = some (reply, left') ∧
      left'.seen = left.seen := by
  have hreply {w w' : World} (hw : w'.seen = w.seen) : w'.client = w.client :=
    (congrArg client hw :)
  simp only [runFlow, clientFor_seen hw] at h ⊢
  split at h
  · cases h
    exact ⟨w', by rw [hreply hw], hw⟩
  · rename_i client _
    have hset : seen { w' with client } = seen { w with client } :=
      (congrArg (fun v => { v with client }) hw :)
    have hsame := (sees_board request.entry).same hset
    split at h <;> rename_i hboard <;>
      obtain ⟨entered', hboard', hentered⟩ := hsame.exists hboard <;> simp only [hboard']
    · cases h
      exact ⟨_, by rw [hreply hentered], seen_alight hw hentered request⟩
    · split at h
      · cases h
      · rename_i hexecute
        cases h
        obtain ⟨left', hexecute', hleft⟩ := Engine.exists_execute_seen hb rfl hentered hexecute
        simp only [hexecute']
        exact ⟨_, by rw [hreply hleft], seen_alight hw hleft request⟩

end World

/-! ## Programs -/

namespace Program

/-- The programs are the same, up to which tasks they leave in the background. -/
inductive SameButTasks : Program → Program → Prop
  | done (outcome : Except Failure Json) : SameButTasks (.done outcome) (.done outcome)
  | perform {action : Action} {next next' : action.Reply → Program} :
      (∀ r, SameButTasks (next r) (next' r)) →
      SameButTasks (.perform action next) (.perform action next')
  | spawn {name name' : String} {delay delay' : Nat} {panics panics' : Bool}
      {spawns spawns' : List TaskPlan} {next next' : Except Failure Unit → Program} :
      (∀ r, SameButTasks (next r) (next' r)) →
      SameButTasks (.perform (.spawn name delay panics spawns) next)
        (.perform (.spawn name' delay' panics' spawns') next')
  | runFlow {flow : Flow} {body body' : Nat → Parameters → Program} {request : RunRequest}
      {next next' : RunReply → Program} :
      (∀ invoked parameters, SameButTasks (body invoked parameters) (body' invoked parameters)) →
      (∀ r, SameButTasks (next r) (next' r)) →
      SameButTasks (.runFlow flow body request next) (.runFlow flow body' request next')

theorem SameButTasks.refl (p : Program) : p.SameButTasks p := by
  induction p with
  | done outcome => exact .done outcome
  | perform _ _ ih => exact .perform ih
  | runFlow _ _ _ _ ihBody ihNext => exact .runFlow ihBody ihNext

/-- **A program goes on in the same way if it leaves other tasks in the background.** -/
theorem exists_run_seen {p p' : Program} {limit : Nat} {w w' v : World}
    {outcome : Except Failure Json} (hp : p.SameButTasks p') (hw : w'.seen = w.seen)
    (h : p.run limit w = some (outcome, v)) :
    ∃ v', p'.run limit w' = some (outcome, v') ∧ v'.seen = v.seen := by
  induction hp generalizing w w' v outcome with
  | done =>
    cases h
    exact ⟨w', rfl, hw⟩
  | @perform action _ _ _ ih =>
    obtain ⟨hr, hv⟩ := World.sameSeen_perform hw action
    simp only [run, hr] at h ⊢
    exact ih _ hv h
  | @spawn name name' delay delay' panics panics' spawns spawns' _ _ _ ih =>
    obtain ⟨hr, hv⟩ :=
      World.sameSeen_spawn hw name name' delay delay' panics panics' spawns spawns'
    simp only [run, hr] at h ⊢
    exact ih _ hv h
  | @runFlow flow body body' request _ _ _ _ ihBody ihNext =>
    simp only [run] at h ⊢
    split at h
    · cases h
    · rename_i hrun
      have hb : Invoke.Mimics (fun n parameters inside => (body n parameters).run limit inside)
          fun n parameters inside => (body' n parameters).run limit inside :=
        fun n parameters _ _ _ _ hw h => ihBody n parameters hw h
      obtain ⟨left', hrun', hleft⟩ := World.exists_runFlow_of_mimics hb hw hrun
      simp only [hrun']
      exact ihNext _ hleft h

end Program

/-- **Which tasks the body of a run leaves in the background makes no difference to the reply.** -/
theorem World.exists_runFlow_seen {w left : World} {limit : Nat} {body body' : Body} {flow : Flow}
    {request : RunRequest} {reply : RunReply}
    (hbody : ∀ invoked parameters,
      (body invoked parameters).SameButTasks (body' invoked parameters))
    (h : w.runFlow limit (body.invoke limit) flow request = some (reply, left)) :
    ∃ left', w.runFlow limit (body'.invoke limit) flow request = some (reply, left') ∧
      left'.seen = left.seen :=
  have hb : (body.invoke limit).Mimics (body'.invoke limit) :=
    fun invoked parameters _ _ _ _ hw h => Program.exists_run_seen (hbody invoked parameters) hw h
  exists_runFlow_of_mimics hb rfl h

end RunEngine
