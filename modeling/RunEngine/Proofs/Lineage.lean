import RunEngine.Proofs.Journal
import RunEngine.Proofs.Register
import RunEngine.Proofs.Simulation

/-!
# Nested runs and their task runs

A run that is started in the body of another one is registered there as a task before it is created,
and its record names the task run. The scope that the body is in says which run the task belongs to,
the client is handed down from the run around it, and the two records are created by two calls.

`Program.births` are the runs that a body starts, at any depth. It follows the program as it is run,
into the bodies of nested runs as often as they are invoked, and the identifier of the run around
them is handed down in the recursion: it is not read from any scope or record.

That these are all the runs that are created, each with a task run of its own in the run around it,
is `World.Begets`. Setting up a run creates its own records and no others (`Enrolls`), the driver
adds what its body creates in each invocation (`Engine.begets_driven`), and a nested run has a
smaller program for its body (`Program.begets_run`).

The main result is **`runFlow_lineage`**: after a request outside of any run, the runs that the
store has gained and the task runs that it has gained correspond one to one.
-/

namespace RunEngine

/-! ## Nested runs -/

/-- A run that was started in the body of another one, and what was created for it. -/
structure Birth where
  /-- How many runs were around it. -/
  depth : Nat
  /-- The run in whose body it was started. -/
  parent : Uuid
  flow : Flow
  /-- The parameters it was started with. -/
  parameters : Parameters
  task : TaskRun
  run : FlowRun

namespace Birth

/-- What was created for a nested run, in order. -/
def creations (b : Birth) : List (Nat × Creation) :=
  [(b.depth, .task b.task), (b.depth, .run b.run)]

/-- The task run stands for the nested run in the run that it was started in. -/
structure Linked (b : Birth) : Prop where
  link : b.run.parentTaskRun = some b.task.id
  flowRun : b.task.task.flowRun = b.parent
  taskKey : b.task.task.taskKey = b.flow.taskKey
  inputs : b.task.task.inputs = b.parameters.map fun _ => []

theorem tasks_creations (births : List Birth) :
    Creation.tasks (births.flatMap creations) = births.map (·.task) := by
  induction births with
  | nil => rfl
  | cons b births ih => rw [List.flatMap_cons, Creation.tasks_append, ih]; rfl

theorem runs_creations (births : List Birth) :
    Creation.runs (births.flatMap creations) = births.map (·.run) := by
  induction births with
  | nil => rfl
  | cons b births ih => rw [List.flatMap_cons, Creation.runs_append, ih]; rfl

end Birth

namespace Program

/-- The runs that are nested in a run with the identifier `parent`, at any depth, when its body goes
on like this: those that it starts, each followed by the runs nested in it. -/
def births (limit : Nat) (parent : Uuid) : Program → World → List Birth
  | .done _, _ => []
  | .perform action next, w =>
    (next (w.perform action).1).births limit parent (w.perform action).2
  | .runFlow flow body request next, w =>
    let invoke : Invoke := fun n parameters inside => (body n parameters).run limit inside
    match w.runFlow limit invoke flow request with
    | none => []
    | some (reply, left) =>
      -- An engine that gets that far creates these two itself, whatever is nested in its run.
      let started := match (w.conduct left).filterMap Event.creation? with
        | [.task task, .run run] =>
          { depth := w.scopes.length, parent, flow, parameters := request.parameters, task, run } ::
            (w.visits limit invoke flow request).flatMap fun v =>
              (body v.invoked v.parameters).births limit run.id v.inside
        | _ => []
      started ++ (next reply).births limit parent left

/-- Every run that is nested in this one, at any depth, uses the client of this one and has its
record created. -/
def Inherits (limit : Nat) : Program → World → Prop
  | .done _, _ => True
  | .perform action next, w => (next (w.perform action).1).Inherits limit (w.perform action).2
  | .runFlow flow body request next, w =>
    let invoke : Invoke := fun n parameters inside => (body n parameters).run limit inside
    request.options.client = none ∧ request.options.flowRun = none ∧
    (∀ v ∈ w.visits limit invoke flow request,
      (body v.invoked v.parameters).Inherits limit v.inside) ∧
    ∀ reply left, w.runFlow limit invoke flow request = some (reply, left) →
      (next reply).Inherits limit left

end Program

/-! ## Starting a run -/

/-- What is created for a run of a flow that is started within the runs `around`. -/
inductive Enrolls (flow : Flow) (parameters : Parameters) :
    (around : List Uuid) → (made : List (Nat × Creation)) → FlowRun → Prop
  | alone {run : FlowRun} : run.parentTaskRun = none →
      Enrolls flow parameters [] [(0, .run run)] run
  | nested {around : List Uuid} {b : Birth} : around.head? = some b.parent →
      b.depth = around.length → b.flow = flow → b.parameters = parameters → b.Linked →
      Enrolls flow parameters around b.creations b.run

theorem Enrolls.depth {flow : Flow} {parameters : Parameters} {around : List Uuid}
    {made : List (Nat × Creation)} {run : FlowRun}
    (h : Enrolls flow parameters around made run) : ∀ p ∈ made, p.1 = around.length := by
  cases h with
  | alone => simp
  | nested _ hd => simp [Birth.creations, hd]

theorem Enrolls.runs {flow : Flow} {parameters : Parameters} {around : List Uuid}
    {made : List (Nat × Creation)} {run : FlowRun}
    (h : Enrolls flow parameters around made run) : Creation.runs made = [run] := by
  cases h <;> rfl

namespace Engine

open World

variable {e e' : Engine} {w w' : World} {limit : Nat}

/-- A run is registered as a task of the run that it is started in, or not at all. -/
theorem yields_link {scope : Scope} {rest : List Scope}
    {outcome : Except EngineError (Option Uuid)} (hw : w.Grants) (hs : w.scopes = scope :: rest)
    (h : e.link w = (outcome, w')) :
    (∃ error, outcome = .error error) ∧ w.Yields [] w' ∨
    ∃ task, outcome = .ok (some task.id) ∧ task.task.flowRun = scope.runId ∧
      task.task.taskKey = e.flow.taskKey ∧ task.task.inputs = (e.parameters.map fun _ => []) ∧
      w.Yields [(w.scopes.length, .task task)] w' := by
  have hkey : w.Yields [] (w.withScope (scope.nextDynamicKey e.flow.taskKey).2) :=
    yields_withScope hs rfl
  simp only [link, hs] at h
  split at h <;> cases h <;> rename_i htask <;>
    obtain ⟨⟨_, hrefused⟩, hy⟩ | ⟨task, hok, hrequest, hy⟩ :=
      yields_createTaskRun (hkey.grants hw) htask
  · cases hrefused
  · cases hok
    rw [hkey.length] at hy
    exact .inr ⟨_, rfl, by rw [hrequest]; rfl, by rw [hrequest], by rw [hrequest],
      hkey.trans hy⟩
  · exact .inl ⟨⟨_, rfl⟩, hkey.trans hy⟩
  · cases hok

/-- An engine creates a run for itself, or nothing at all. -/
theorem enrolls_create (hw : w.Grants) {outcome : Except EngineError FlowRun}
    (h : e.create w = (outcome, w')) :
    (∃ error, outcome = .error error) ∧ w.Yields [] w' ∨
    ∃ made run, outcome = .ok run ∧ Enrolls e.flow e.parameters (w.scopes.map (·.runId)) made run ∧
      w.Yields made w' := by
  cases hs : w.scopes with
  | nil =>
    simp only [create, link, hs] at h
    split at h <;> cases h <;> rename_i heq <;>
      obtain ⟨run, hok, hparent, hy⟩ := yields_createFlowRun hw heq <;> cases hok
    rw [hs] at hy
    exact .inr ⟨_, _, rfl, .alone hparent, hy⟩
  | cons scope rest =>
    simp only [create] at h
    split at h <;> rename_i hlink <;>
      obtain ⟨⟨_, hrefused⟩, hy⟩ | ⟨task, hok, hrun, hkey, hinputs, hy⟩ := yields_link hw hs hlink
    · cases h
      exact .inl ⟨⟨_, rfl⟩, hy⟩
    · cases hok
    · cases hrefused
    · cases hok
      split at h <;> cases h <;> rename_i heq <;>
        obtain ⟨run, hok, hparent, hy'⟩ := yields_createFlowRun (hy.grants hw) heq <;> cases hok
      rename_i run
      rw [hy.length] at hy'
      let b : Birth :=
        { depth := w.scopes.length, parent := scope.runId, flow := e.flow
          parameters := e.parameters, task, run }
      have hdepth : b.depth = (w.scopes.map (·.runId)).length := by rw [List.length_map]
      rw [hs] at hdepth
      exact .inr ⟨b.creations, _, rfl, .nested rfl hdepth rfl rfl ⟨hparent, hrun, hkey, hinputs⟩,
        hy.trans hy'⟩

theorem enrolls_setup {r : Except EngineError Unit} (hw : w.Grants) (hr : e.record = none)
    (h : e.setup limit w = some (r, e', w')) :
    (∃ error, r = .error error) ∧ w.Yields [] w' ∨
    ∃ made run, Enrolls e.flow e.parameters (w.scopes.map (·.runId)) made run ∧
      w.Yields made w' ∧ (r = .ok () → e'.scope.map (·.runId) = some run.id) := by
  cases hcreate : e.create w with
  | mk outcome w₁ =>
    obtain ⟨⟨error, rfl⟩, hy⟩ | ⟨made, run, rfl, henrolls, hy⟩ := enrolls_create hw hcreate
    · simp only [setup, ensureRecord, hr, hcreate] at h
      cases h
      exact .inl ⟨⟨_, rfl⟩, hy⟩
    · simp only [setup, ensureRecord, hr, hcreate] at h
      refine .inr ⟨made, run, henrolls, ?_⟩
      split at h <;> cases h <;> rename_i hcheck
      · exact ⟨hy.before (yields_checkParameters hcheck), fun hok => by cases hok⟩
      · obtain ⟨-, hid⟩ := (checks_checkParameters hcheck).writes rfl
        refine ⟨hy.before (yields_checkParameters hcheck), fun _ => ?_⟩
        rw [← hid, openScope, Option.map_map]
        rfl

theorem enrolls_start {r : Except EngineError Unit} (hw : w.Grants) (hr : e.record = none)
    (hc : e.connected = false) (h : e.start limit w = some (r, e', w')) :
    (∃ error, r = .error error) ∧ w.Yields [] w' ∨
    ∃ made run, Enrolls e.flow e.parameters (w.scopes.map (·.runId)) made run ∧
      w.Yields made w' ∧ (r = .ok () → e'.scope.map (·.runId) = some run.id) := by
  have hconnect := w.yields_connect
  simp only [start, hc, Bool.false_eq_true, if_false] at h
  split at h <;> rename_i heq <;> rw [heq] at hconnect
  · cases h
    exact .inl ⟨⟨_, rfl⟩, hconnect⟩
  · split at h <;> cases h <;> rename_i hsetup <;>
      obtain ⟨⟨_, herror⟩, hy⟩ | ⟨made, run, henrolls, hy, hid⟩ :=
        enrolls_setup (e := { e with connected := true }) (hconnect.grants hw) hr hsetup
    · cases herror
    · rw [hconnect.around] at henrolls
      exact .inr ⟨made, run, henrolls, hconnect.trans hy, hid⟩
    · exact .inl ⟨⟨_, rfl⟩, (hconnect.trans hy).before (yields_close _)⟩
    · rw [hconnect.around] at henrolls
      exact .inr ⟨made, run, henrolls, (hconnect.trans hy).before (yields_close _),
        fun hok => by cases hok⟩

end Engine

/-! ## Bodies -/

namespace World

variable {w w' w'' : World} {depth : Nat} {births more : List Birth}

/-- `w'` comes after `w`, and the runs that were created in between are `births`: each is nested in
the run around it, at the depth `depth` or deeper. -/
structure Begets (w : World) (depth : Nat) (births : List Birth) (w' : World) : Prop where
  yields : w.Yields (births.flatMap Birth.creations) w'
  linked : ∀ b ∈ births, b.Linked ∧ depth ≤ b.depth

theorem Begets.trans (h : w.Begets depth births w') (h' : w'.Begets depth more w'') :
    w.Begets depth (births ++ more) w'' where
  yields := by
    rw [List.flatMap_append]
    exact h.yields.trans h'.yields
  linked := List.forall_mem_append.2 ⟨h.linked, h'.linked⟩

theorem Yields.begets (h : w.Yields [] w') : w.Begets depth [] w' := ⟨h, List.forall_mem_nil _⟩

/-- Nothing more is created. -/
theorem Begets.before (h : w.Begets depth births w') (h' : w'.Yields [] w'') :
    w.Begets depth births w'' := by
  have hall := h.trans h'.begets
  rwa [List.append_nil] at hall

/-- A body is at work in the run `id`, whose orchestrator decides about creations itself. -/
structure Houses (w : World) (id : Uuid) : Prop where
  grants : w.Grants
  run : w.scopes.head?.map (·.runId) = some id

theorem Yields.houses {made : List (Nat × Creation)} {id : Uuid} (h : w.Yields made w')
    (hw : w.Houses id) : w'.Houses id where
  grants := h.grants hw.grants
  run := by rw [← List.head?_map, h.around, List.head?_map, hw.run]

theorem Houses.inherits {request : RunRequest} {id : Uuid} (hw : w.Houses id)
    (hc : request.options.client = none) : w.inherits request := by
  have hrun := hw.run
  cases hs : w.scopes with
  | nil =>
    rw [hs] at hrun
    cases hrun
  | cons => simp [World.inherits, hc, hs]

end World

namespace Engine

open World

variable {e e' : Engine} {w w' : World} {limit : Nat} {body : Invoke} {id : Uuid}
  {f : Visit → List Birth} {vs : List Visit}

/-- `f` tells the runs that are created when the body is invoked in the run `id`. -/
def Tells (body : Invoke) (id : Uuid) (f : Visit → List Birth) (vs : List Visit) : Prop :=
  ∀ v ∈ vs, ∀ outcome inside, v.inside.Houses id → v.run body = some (outcome, inside) →
    v.inside.Begets v.inside.scopes.length (f v) inside

theorem scope_setState {s : State} {r : Except EngineError State}
    (h : e.setState limit w s = some (r, e', w')) :
    e'.scope.map (·.runId) = e.scope.map (·.runId) := by
  cases proposes_setState h with
  | shortCircuited | notStarted | unrecorded => rfl
  | answered =>
    cases r with
    | ok recorded => simp only [conclude, apply, Option.map_map, Function.comp_def]
    | error => rfl

theorem begets_invoke {scope : Scope} {outcome : Except Failure Json} (hw : w.Grants)
    (hs : e.scope = some scope) (hid : scope.runId = id)
    (hb : Tells body id f [e.visit scope w]) (h : e.invoke body w = some (outcome, e', w')) :
    w.Begets (w.scopes.length + 1) (f (e.visit scope w)) w' ∧
      e'.scope.map (·.runId) = some id := by
  obtain ⟨inside, hrun, rfl, rfl⟩ := exists_run_of_invoke hs h
  have hhouses : (e.enter scope w).Houses id := ⟨hw, by rw [← hid]; rfl⟩
  have hbegets : (e.enter scope w).Begets (w.scopes.length + 1) (f (e.visit scope w)) inside :=
    hb _ (List.mem_singleton_self _) _ _ hhouses hrun
  exact ⟨⟨yields_enter hbegets.yields, hbegets.linked⟩, (hbegets.yields.houses hhouses).run⟩

theorem begets_driven (hw : w.Grants) (hid : e.scope.map (·.runId) = some id)
    (hb : Tells body id f vs) (h : Driven body e w vs e' w') :
    w.Begets (w.scopes.length + 1) (vs.flatMap f) w' ∧ e'.scope.map (·.runId) = some id := by
  induction h with
  | nil => exact ⟨(Yields.refl w).begets, hid⟩
  | propose _ hset ih =>
    obtain ⟨hbegets, hid'⟩ := ih hb
    exact ⟨hbegets.before (yields_setState hset), (scope_setState hset).trans hid'⟩
  | sleep duration _ ih =>
    obtain ⟨hbegets, hid'⟩ := ih hb
    exact ⟨hbegets.before (yields_sleep ..), hid'⟩
  | invoke _ hs hinvoke ih =>
    obtain ⟨hearlier, hlast⟩ := List.forall_mem_append.1 hb
    obtain ⟨hbegets, hid'⟩ := ih hearlier
    rw [hs, Option.map_some, Option.some_inj] at hid'
    obtain ⟨hbegets', hid''⟩ := begets_invoke (hbegets.yields.grants hw) hs hid' hlast hinvoke
    rw [hbegets.yields.length] at hbegets'
    rw [List.flatMap_append, List.flatMap_singleton]
    exact ⟨hbegets.trans hbegets', hid''⟩

end Engine

/-! ## Requests -/

namespace World

/-- What is created on the way from `w` to `w'`, for a request to run a flow: nothing, or a run and
the runs nested in it. -/
inductive Founds (w : World) (flow : Flow) (parameters : Parameters)
    (births : Uuid → List Birth) (w' : World) : Prop
  | nothing : w.Yields [] w' → Founds w flow parameters births w'
  | run {made : List (Nat × Creation)} {run : FlowRun} :
      Enrolls flow parameters (w.scopes.map (·.runId)) made run →
      w.Yields (made ++ (births run.id).flatMap Birth.creations) w' →
      (∀ b ∈ births run.id, b.Linked ∧ w.scopes.length + 1 ≤ b.depth) →
      Founds w flow parameters births w'

variable {w w₁ w' left : World} {flow : Flow} {parameters : Parameters}
  {births : Uuid → List Birth}

theorem Founds.before (h : w.Founds flow parameters births w') (h' : w'.Yields [] left) :
    w.Founds flow parameters births left := by
  cases h with
  | nothing hy => exact .nothing (hy.before h')
  | run henrolls hy hb => exact .run henrolls (hy.before h') hb

theorem Yields.founds (h : w.Yields [] w₁) (h' : w₁.Founds flow parameters births w') :
    w.Founds flow parameters births w' := by
  cases h' with
  | nothing hy => exact .nothing (h.trans hy)
  | run henrolls hy hb =>
    rw [h.around] at henrolls
    rw [h.length] at hb
    exact .run henrolls (h.trans hy) hb

end World

theorem Engine.founds_execute {e : Engine} {w w' : World} {limit : Nat} {body : Invoke}
    {options : RunOptions} {f : Uuid → Visit → List Birth} {outcome : Except EngineError RunOutput}
    (hw : w.Grants) (hr : e.record = none) (hc : e.connected = false)
    (hb : ∀ id, Tells body id (f id) (e.allVisits limit body options w))
    (h : e.execute limit body options w = some (outcome, w')) :
    w.Founds e.flow e.parameters
      (fun id => (e.allVisits limit body options w).flatMap (f id)) w' := by
  simp only [execute] at h
  simp only [allVisits] at hb ⊢
  split at h
  · cases h
  · rename_i hstart
    cases h
    simp only [hstart]
    obtain ⟨-, hy⟩ | ⟨made, run, henrolls, hy, -⟩ := enrolls_start hw hr hc hstart
    · exact .nothing hy
    · exact .run henrolls (by simpa using hy) (List.forall_mem_nil _)
  · rename_i e₁ w₁ hstart
    simp only [hstart] at hb ⊢
    obtain ⟨⟨_, herror⟩, -⟩ | ⟨made, run, henrolls, hy, hid⟩ := enrolls_start hw hr hc hstart
    · cases herror
    · obtain ⟨scope, hs, -⟩ := Option.map_eq_some_iff.1 (hid rfl)
      simp only [hs, Option.isNone_some, Bool.false_eq_true, if_false] at h hb ⊢
      split at h
      · cases h
      · rename_i hdrive
        cases h
        obtain ⟨hbegets, -⟩ :=
          begets_driven (hy.grants hw) (hid rfl) (hb run.id) (driven_drive hdrive)
        refine .run henrolls ((hy.trans hbegets.yields).before (yields_finish ..)) ?_
        rw [← hy.length]
        exact hbegets.linked

namespace World

variable {w left : World} {limit : Nat} {body : Invoke} {flow : Flow} {request : RunRequest}
  {client : Client} {f : Uuid → Visit → List Birth} {outcome : Except EngineError RunOutput}

theorem founds_carryOut (hc : w.clientFor request.options = .ok client)
    (hw : { w with client }.Grants) (hr : request.options.flowRun = none)
    (hb : ∀ id, Engine.Tells body id (f id) (w.visits limit body flow request))
    (h : { w with client }.carryOut limit body flow request = some (outcome, left)) :
    { w with client }.Founds flow request.parameters
      (fun id => (w.visits limit body flow request).flatMap (f id)) left := by
  have hboard := { w with client }.yields_board request.entry
  simp only [carryOut] at h
  simp only [visits, hc] at hb ⊢
  split at h <;> rename_i heq <;> rw [heq] at hboard
  · cases h
    exact .nothing hboard
  · simp only [heq] at hb ⊢
    exact hboard.founds (Engine.founds_execute (hboard.grants hw) hr rfl hb h)

/-- A nested request has the client of the run around it. -/
theorem founds_runFlow {reply : RunReply} (hi : w.inherits request) (hw : w.Grants)
    (hr : request.options.flowRun = none)
    (hb : ∀ id, Engine.Tells body id (f id) (w.visits limit body flow request))
    (h : w.runFlow limit body flow request = some (reply, left)) :
    w.Founds flow request.parameters
      (fun id => (w.visits limit body flow request).flatMap (f id)) left := by
  rw [runFlow_eq (clientFor_of_inherits hi), Option.map_eq_some_iff] at h
  obtain ⟨⟨outcome, left'⟩, hcarry, hhand⟩ := h
  cases hhand
  refine (founds_carryOut (clientFor_of_inherits hi) hw hr hb hcarry).before ?_
  rw [inherits] at hi
  simp only [alight, hi, if_true]
  cases request.entry with
  | await => exact .refl left'
  | block => exact yields_silent rfl rfl rfl rfl

/-- What the engine itself created, when all that is nested in it is deeper. -/
theorem Yields.conduct {made : List (Nat × Creation)} {births : List Birth}
    (h : w.Yields (made ++ births.flatMap Birth.creations) left)
    (hmade : ∀ p ∈ made, p.1 = w.scopes.length)
    (hb : ∀ b ∈ births, b.Linked ∧ w.scopes.length + 1 ≤ b.depth) :
    (w.conduct left).filterMap Event.creation? = made.map (·.2) := by
  have hown : made.filter (·.1 == w.scopes.length) = made := by
    rw [List.filter_eq_self]
    intro p hp
    simpa using hmade p hp
  have hdeep : (births.flatMap Birth.creations).filter (·.1 == w.scopes.length) = [] := by
    rw [List.filter_eq_nil_iff]
    intro p hp
    obtain ⟨b, hb', hp⟩ := List.mem_flatMap.1 hp
    have hlt := (hb b hb').2
    have hdepth : p.1 = b.depth := by
      simp only [Birth.creations, List.mem_cons, List.not_mem_nil, or_false] at hp
      obtain rfl | rfl := hp <;> rfl
    simp only [hdepth, beq_iff_eq]
    omega
  rw [filterMap_conduct, h.creations, List.filter_append, hown, hdeep, List.append_nil]

/-- A request in the body of the run `parent` makes a nested run of it. -/
theorem Founds.nested {parameters : Parameters} {births : Uuid → List Birth} {parent : Uuid}
    (h : w.Founds flow parameters births left)
    (hparent : w.scopes.head?.map (·.runId) = some parent) :
    (w.conduct left).filterMap Event.creation? = [] ∧ w.Begets w.scopes.length [] left ∨
    ∃ task run, (w.conduct left).filterMap Event.creation? = [.task task, .run run] ∧
      w.Begets w.scopes.length
        ({ depth := w.scopes.length, parent, flow, parameters, task, run } :: births run.id)
        left := by
  cases h with
  | nothing hy =>
    refine .inl ⟨?_, hy.begets⟩
    rw [filterMap_conduct, hy.creations]
    rfl
  | run henrolls hy hdeeper =>
    have hown := hy.conduct (by simpa using henrolls.depth) hdeeper
    have hdepth : (w.scopes.map (·.runId)).length = w.scopes.length := List.length_map ..
    rw [← List.head?_map] at hparent
    generalize w.scopes.map (·.runId) = around at henrolls hparent hdepth
    cases henrolls with
    | alone => cases hparent
    | @nested _ b hp hd hf hps hl =>
      obtain ⟨_, _, _, _, task, run⟩ := b
      cases hp.symm.trans hparent
      cases hd.trans hdepth
      cases hf
      cases hps
      exact .inr ⟨task, run, hown, hy, List.forall_mem_cons.2 ⟨⟨hl, Nat.le_refl _⟩,
        fun b hb => ⟨(hdeeper b hb).1, Nat.le_of_succ_le (hdeeper b hb).2⟩⟩⟩

end World

/-- **Every run that a body starts, at any depth, is one of its `births`**, and has a task run of
its own. -/
theorem Program.begets_run {p : Program} {limit : Nat} {parent : Uuid} {w w' : World}
    {outcome : Except Failure Json} (hw : w.Houses parent) (hp : p.Inherits limit w)
    (h : p.run limit w = some (outcome, w')) :
    w.Begets w.scopes.length (p.births limit parent w) w' := by
  induction p generalizing w w' parent outcome with
  | done =>
    cases h
    exact (World.Yields.refl w).begets
  | perform action next ih =>
    have hy := w.yields_perform action
    have hrest := ih _ (hy.houses hw) hp h
    rw [hy.length] at hrest
    exact hy.begets.trans hrest
  | runFlow flow body request next ihBody ihNext =>
    obtain ⟨hclient, hrecord, hbodies, hnext⟩ := hp
    simp only [run] at h
    split at h
    · cases h
    · rename_i reply left hrun
      -- The body of the nested run is a smaller program, whatever run it is in.
      have hbody : ∀ id, Engine.Tells (Body.invoke limit body) id
          (fun v => (body v.invoked v.parameters).births limit id v.inside)
          (w.visits limit (Body.invoke limit body) flow request) := by
        intro id v hv outcome inside hhouses hinside
        exact ihBody _ _ hhouses (hbodies v hv) hinside
      have hfounds :=
        World.founds_runFlow (hw.inherits hclient) hw.grants hrecord hbody hrun
      have hrest {births : List Birth} (hbegets : w.Begets w.scopes.length births left) :
          left.Begets w.scopes.length ((next reply).births limit parent left) w' := by
        have hbegets' := ihNext reply (hbegets.yields.houses hw) (hnext _ _ hrun) h
        rwa [hbegets.yields.length] at hbegets'
      obtain ⟨hown, hbegets⟩ | ⟨task, run, hown, hbegets⟩ := hfounds.nested hw.run <;>
        simp only [births, hrun, hown] <;>
        exact hbegets.trans (hrest hbegets)

/-! ## Runs outside of any other -/

namespace World

variable {w left : World} {limit : Nat} {body : Body} {flow : Flow} {request : RunRequest}

/-- The runs that are nested in the run of a request, at any depth, in order of creation. -/
def nestedRuns (limit : Nat) (body : Body) (flow : Flow) (request : RunRequest) (w : World)
    (run : FlowRun) : List Birth :=
  (w.visits limit (body.invoke limit) flow request).flatMap fun v =>
    (body v.invoked v.parameters).births limit run.id v.inside

/-- What is created for the run `outer`, which is not nested in another one, and for the runs
`births` that are nested in it; and what the store `before` becomes by that. -/
structure Lineage (w left : World) (before after : Orchestrator) (outer : FlowRun)
    (births : List Birth) : Prop where
  /-- Nothing else is created, and the task run of a nested run comes before the run. -/
  order : w.creations left = (0, .run outer) :: births.flatMap Birth.creations
  /-- No task run stands for the outermost run, and one for every other. -/
  runs : after.links = before.links ++
    (outer.id, none) :: births.map fun b => (b.run.id, some b.task.id)
  tasks : after.taskRuns = before.taskRuns ++ births.map (·.task)
  linked : ∀ b ∈ births, b.Linked
  /-- A task run stands for one run. -/
  unique : ∀ task ∈ births.map (·.task),
    ∃! b, b ∈ births ∧ b.run.parentTaskRun = some task.id
  runIds : after.ids.Nodup
  taskIds : (after.taskRuns.map (·.id)).Nodup

theorem journal_alight (w : World) (request : RunRequest) (left : World) :
    (w.alight request left).journal = left.journal := by
  unfold alight
  cases request.entry <;> dsimp only <;> split <;> rfl

theorem ids_alight (w : World) (request : RunRequest) (left : World) :
    (w.alight request left).ids = left.ids := by
  unfold alight
  cases request.entry <;> dsimp only <;> split <;> rfl

/-- The run that an engine created is the first of its creations that is one. -/
theorem findSome?_created? (own : List Event) : own.findSome? Event.created? =
    ((own.filterMap Event.creation?).filterMap Creation.run?).head? := by
  rw [List.filterMap_filterMap, List.head?_filterMap]
  congr 1
  funext e
  cases e with
  | createTaskRun _ answer | createFlowRun _ answer => cases answer <;> rfl
  | _ => rfl

/-- A store that gained a run outside of any other and the runs nested in it. -/
theorem lineage_of_gains {o o' : Orchestrator} {outer : FlowRun} {births : List Birth}
    (hn : w.Fresh left o) (hp : outer.parentTaskRun = none) (hl : ∀ b ∈ births, b.Linked)
    (horder : w.creations left = (0, .run outer) :: births.flatMap Birth.creations)
    (hi : w.ids.Issues (w.creations left) left.ids) (hg : o.Gains (w.creations left) o') :
    w.Lineage left o o' outer births := by
  have hruns : Creation.runs (w.creations left) = outer :: births.map (·.run) := by
    rw [horder, ← List.singleton_append, Creation.runs_append, Birth.runs_creations]
    rfl
  have htasks : Creation.tasks (w.creations left) = births.map (·.task) := by
    rw [horder, ← List.singleton_append, Creation.tasks_append, Birth.tasks_creations]
    rfl
  have hids : o'.ids.Nodup := by
    rw [hg.ids, hi.runs]
    exact hn.runs
  have htaskIds : (o'.taskRuns.map (·.id)).Nodup := by
    rw [hg.taskRuns, List.map_append, hi.tasks]
    exact hn.tasks
  have hdistinct : (births.map (·.task.id)).Nodup := by
    rw [hg.taskRuns, htasks, List.map_append, List.map_map] at htaskIds
    exact (List.nodup_append.1 htaskIds).2.1
  have hlinks : (outer :: births.map (·.run)).map FlowRun.link =
      (outer.id, none) :: births.map fun b => (b.run.id, some b.task.id) := by
    rw [List.map_cons, List.map_map, FlowRun.link, hp]
    congr 1
    apply List.map_congr_left
    intro b hb
    rw [Function.comp, FlowRun.link, (hl b hb).link]
  have hunique : ∀ task ∈ births.map (·.task),
      ∃! b, b ∈ births ∧ b.run.parentTaskRun = some task.id := by
    intro task htask
    obtain ⟨b, hb, rfl⟩ := List.mem_map.1 htask
    refine ⟨b, ⟨hb, (hl b hb).link⟩, ?_⟩
    rintro b' ⟨hb', hlink⟩
    rw [(hl b' hb').link] at hlink
    exact List.inj_on_of_nodup_map hdistinct hb' hb (Option.some.inj hlink)
  exact
    { order := horder
      runs := by rw [hg.links hids, hruns, hlinks]
      tasks := by rw [hg.taskRuns, htasks]
      linked := hl
      unique := hunique
      runIds := hids
      taskIds := htaskIds }

/-- **Nested runs are linked one to one.** Either nothing is created, or the run of the request and
the runs nested in it are, each of these with a task run in the run in whose body it was started.
This asks for an orchestrator in memory that decides about creations itself, for identifiers that
are new to it, and for bodies that start all runs with the client they find. -/
theorem runFlow_lineage {c : LocalClient} {reply : RunReply} (hs : w.scopes = [])
    (hr : request.options.flowRun = none)
    (hc : w.clientFor request.options = .ok (.inMemory c)) (hg : c.Grants)
    (hn : w.Fresh left c.orchestrator)
    (hi : ∀ v ∈ w.visits limit (body.invoke limit) flow request,
      (body v.invoked v.parameters).Inherits limit v.inside)
    (h : w.runFlow limit (body.invoke limit) flow request = some (reply, left)) :
    ∃ c', reply.client = .inMemory c' ∧
      match (w.conduct left).findSome? Event.created? with
      | none => w.creations left = [] ∧ c'.orchestrator.links = c.orchestrator.links ∧
          c'.orchestrator.taskRuns = c.orchestrator.taskRuns
      | some outer => w.Lineage left c.orchestrator c'.orchestrator outer
          (w.nestedRuns limit body flow request outer) := by
  rw [runFlow_eq hc, Option.map_eq_some_iff] at h
  obtain ⟨⟨outcome, left'⟩, hcarry, hhand⟩ := h
  cases hhand
  have hbody : ∀ id, Engine.Tells (body.invoke limit) id
      (fun v => (body v.invoked v.parameters).births limit id v.inside)
      (w.visits limit (body.invoke limit) flow request) := by
    intro id v hv outcome inside hhouses hinside
    exact Program.begets_run hhouses (hi v hv) hinside
  have hfounds := founds_carryOut hc ⟨c, rfl, hg⟩ hr hbody hcarry
  have hcreations : w.creations (w.alight request left') =
      { w with client := .inMemory c }.creations left' := by
    rw [World.creations, journal_alight]
    rfl
  have hconduct : w.conduct (w.alight request left') =
      { w with client := .inMemory c }.conduct left' := by
    rw [World.conduct, journal_alight]
    rfl
  dsimp only [handOver]
  rw [findSome?_created?, hconduct]
  cases hfounds with
  | nothing hy =>
    obtain ⟨-, c', hc', hgains⟩ := hy.store c rfl hg
    refine ⟨c', hc', ?_⟩
    have hids : c'.orchestrator.ids.Nodup := by
      rw [hgains.store.ids]
      simpa using (List.nodup_append.1 hn.runs).1
    rw [filterMap_conduct, hy.creations]
    exact ⟨hcreations.trans hy.creations, by simpa using hgains.store.links hids,
      by simpa using hgains.store.taskRuns⟩
  | run henrolls hy hdeeper =>
    obtain ⟨hissues, c', hc', hgains⟩ := hy.store c rfl hg
    refine ⟨c', hc', ?_⟩
    rw [hy.conduct (by simpa using henrolls.depth) hdeeper]
    rw [← hy.creations, ← hcreations] at hissues hgains
    rw [hs, List.map_nil] at henrolls
    cases henrolls with
    | nested hp => cases hp
    | alone hp =>
      refine lineage_of_gains hn hp (fun b hb => (hdeeper b hb).1) (hcreations.trans hy.creations)
        ?_ hgains.store
      rw [ids_alight]
      exact hissues

/-- A body with a child that fails once, and that has a child of its own in each attempt. -/
def prolific : Body := fun _ parameters =>
  .runFlow { name := "child", retries := 1 }
    (fun n _ => .runFlow { name := "grandchild" } (fun _ _ => .done (.ok .null))
      { entry := .block } fun _ =>
      .done (if n = 0 then .error (.plain "once more") else .ok .null))
    { parameters } fun _ =>
  .runFlow { name := "grandchild" } (fun _ _ => .done (.ok .null)) {} fun _ => .done (.ok .null)

theorem runFlow_lineage_prolific : ∃ reply left c outer,
    ({} : World).runFlow 9 (prolific.invoke 9) { name := "outer" } {} = some (reply, left) ∧
    reply.client = .inMemory c ∧
    ({} : World).Lineage left {} c.orchestrator outer
      (({} : World).nestedRuns 9 prolific { name := "outer" } {} outer) ∧
    (({} : World).nestedRuns 9 prolific { name := "outer" } {} outer).map
        (fun b => (b.depth, b.parent, b.flow.name)) =
      [(1, .ofRun 0, "child"), (2, .ofRun 1, "grandchild"), (2, .ofRun 1, "grandchild"),
        (1, .ofRun 0, "grandchild")] := by
  have hsummary : (({} : World).runFlow 9 (prolific.invoke 9) { name := "outer" } {}).map
      (fun p => (p.2.ids, ((({} : World).conduct p.2).findSome? Event.created?).map fun outer =>
        (({} : World).nestedRuns 9 prolific { name := "outer" } {} outer).map
          fun b => (b.depth, b.parent, b.flow.name))) =
      some ({ runs := 5, tasks := 4 }, some
        [(1, .ofRun 0, "child"), (2, .ofRun 1, "grandchild"), (2, .ofRun 1, "grandchild"),
          (1, .ofRun 0, "grandchild")]) := by
    decide +kernel
  obtain ⟨⟨reply, left⟩, hrun, hsummary⟩ := Option.map_eq_some_iff.1 hsummary
  obtain ⟨hids, hbirths⟩ := Prod.mk.inj hsummary
  obtain ⟨outer, houter, hbirths⟩ := Option.map_eq_some_iff.1 hbirths
  have hfresh : ({} : World).Fresh left {} := by
    constructor
    · rw [show left.ids = _ from hids]
      decide
    · rw [show left.ids = _ from hids]
      decide
  have hinherits (v : Visit) : (prolific v.invoked v.parameters).Inherits 9 v.inside :=
    ⟨rfl, rfl, fun _ _ => ⟨rfl, rfl, fun _ _ => trivial, fun _ _ _ => trivial⟩,
      fun _ _ _ => ⟨rfl, rfl, fun _ _ => trivial, fun _ _ _ => trivial⟩⟩
  obtain ⟨c, hc, hlineage⟩ := runFlow_lineage (c := {}) rfl rfl rfl ⟨rfl, rfl⟩ hfresh
    (fun v _ => hinherits v) hrun
  rw [show (({} : World).conduct left).findSome? Event.created? = _ from houter] at hlineage
  exact ⟨reply, left, c, outer, hrun, hc, hlineage, hbirths⟩

end World

end RunEngine
