import RunEngine.Proofs.InvalidParameters

/-!
# Runs that are created in memory

`World.Creates` is what it takes for a request to create its run on an orchestrator in memory: the
caller brings no record, the client decides by the orchestrator's rules alone, the orchestrator can
be reached and knows the enclosing run, and nobody has used the identifier that the run will get.

Everything an engine asks for before it proposes is then granted, and the run is stored as it was
asked for: pending, never attempted and never held back (`StoredRun.IsNew`). From there the engine
and the orchestrator are in step (`Engine.InStep`): the state the engine has is the one that is
stored. Only with invalid parameters is the run over when it has been set up
(`start_of_invalid`).
-/

namespace RunEngine

/-! ## Creation -/

/-- A run of a flow that was only created. -/
structure StoredRun.IsNew (r : StoredRun) (flow : Flow) : Prop where
  flowName : r.record.flowName = flow.name
  state : r.record.state.type = .pending
  runCount : r.record.runCount = 0
  held : r.held = 0
  retries : r.policy.retries = flow.retries

/-- A client that decides by the rules of an orchestrator in memory alone, which holds `hold`
proposals to run back and has never heard of `id`. -/
structure LocalClient.Admits (c : LocalClient) (hold : Nat) (id : Uuid) : Prop where
  unscripted : c.Unscripted
  reachable : c.orchestrator.unreachable = false
  hold : c.orchestrator.hold = hold
  unknown : c.orchestrator.find? id = none
  unproposed : c.orchestrator.proposals id = []

/-- The parameters fit the schema of a flow, or are not checked against it. -/
def Flow.Accepts (flow : Flow) (parameters : Parameters) : Prop :=
  flow.validates = false ∨ ∃ settled, flow.schema.validate parameters = .ok settled

theorem Flow.exists_of_not_accepts {flow : Flow} {parameters : Parameters}
    (h : ¬ flow.Accepts parameters) :
    flow.validates ∧ ∃ invalid, flow.schema.validate parameters = .error invalid := by
  simp only [Accepts, not_or, Bool.not_eq_false] at h
  refine ⟨h.1, ?_⟩
  cases hs : flow.schema.validate parameters with
  | ok settled => exact absurd ⟨settled, hs⟩ h.2
  | error invalid => exact ⟨invalid, rfl⟩

namespace World

/-- The identifier of the run that is created next. -/
def nextRun (w : World) : Uuid := .ofRun w.ids.runs

/-- The world in which a run can be created under `id`, inside the enclosing run if there is one. -/
structure Hosts (w : World) (hold : Nat) (id : Uuid) : Prop where
  next : w.nextRun = id
  client : ∃ c, w.client = .inMemory c ∧ c.Admits hold id ∧
    ∀ scope, w.scopes.head? = some scope → (c.orchestrator.find? scope.runId).isSome

/-- The request creates its run on an orchestrator in memory that holds `hold` proposals to run
back for each run. -/
structure Creates (w : World) (request : RunRequest) (hold : Nat) : Prop where
  ungiven : request.options.flowRun = none
  hosts : ∃ client, w.clientFor request.options = .ok client ∧
    { w with client }.Hosts hold w.nextRun

namespace Hosts

variable {w : World} {hold : Nat} {id : Uuid}

/-- Calls that only count connections or store task runs, and leave the enclosing run where it
is. -/
theorem of_store {w' : World} {c c' : LocalClient} (h : w.Hosts hold id)
    (hc : w.client = .inMemory c) (hc' : w'.client = .inMemory c') (hb : c.Becomes w.now c')
    (ho : ∃ connects taskRuns, c'.orchestrator = { c.orchestrator with connects, taskRuns })
    (hn : w'.ids.runs = w.ids.runs)
    (hp : w'.scopes.head?.map (·.runId) = w.scopes.head?.map (·.runId)) : w'.Hosts hold id := by
  obtain ⟨hnext, d, hd, ha, hparent⟩ := h
  obtain rfl : c = d := by simpa [hc] using hd
  obtain ⟨connects, taskRuns, ho⟩ := ho
  have hfind (id : Uuid) : c'.orchestrator.find? id = c.orchestrator.find? id := by rw [ho]; rfl
  refine ⟨by rw [← hnext, nextRun, nextRun, hn], c', hc', ⟨hb.unscripted ha.unscripted, ?_, ?_,
    (hfind id).trans ha.unknown, ?_⟩, fun scope hs => ?_⟩
  · rw [ho]
    exact ha.reachable
  · rw [ho]
    exact ha.hold
  · rw [ho]
    exact ha.unproposed
  · rw [hs, Option.map_some] at hp
    obtain ⟨scope', hs', hid⟩ := Option.map_eq_some_iff.1 hp.symm
    rw [hfind, ← hid]
    exact hparent scope' hs'

theorem withScope {scope scope' : Scope} {rest : List Scope} (h : w.Hosts hold id)
    (hs : w.scopes = scope :: rest) (hid : scope'.runId = scope.runId) :
    (w.withScope scope').Hosts hold id := by
  obtain ⟨c, hc, -⟩ := h.client
  exact h.of_store hc hc (.refl ..) ⟨_, _, rfl⟩ rfl (by simp [World.withScope, hs, hid])

theorem fork (h : w.Hosts hold id) : w.fork.1 = .ok () ∧ w.fork.2.Hosts hold id := by
  obtain ⟨c, hc, ha, -⟩ := h.client
  have hf : c.fork = (.ok (), c.note .fork) := by
    simp only [LocalClient.fork, LocalClient.note, ha.unscripted.forkError]
  have hw : w.fork =
      (.ok (), { w with client := .inMemory (c.note .fork) }.record (.fork (.ok ()))) := by
    simp only [World.fork, Client.fork, hc, hf]
  rw [hw]
  exact ⟨rfl, h.of_store hc rfl (by simpa [hf] using c.becomes_fork w.now) ⟨_, _, rfl⟩ rfl rfl⟩

theorem connect (h : w.Hosts hold id) : w.connect.1 = .ok () ∧ w.connect.2.Hosts hold id := by
  obtain ⟨c, hc, ha, -⟩ := h.client
  have hco : c.connect.1 = .ok () ∧ ∃ connects taskRuns,
      c.connect.2.orchestrator = { c.orchestrator with connects, taskRuns } := by
    simp only [LocalClient.connect, LocalClient.note, ha.unscripted.connects, Script.take,
      Orchestrator.connect, ha.reachable]
    exact ⟨rfl, _, _, rfl⟩
  have hw : w.connect =
      (c.connect.1, { w with client := .inMemory c.connect.2 }.record (.connect c.connect.1)) := by
    simp only [World.connect, Client.connect, hc]
  rw [hw]
  exact ⟨hco.1, h.of_store hc rfl (c.becomes_connect w.now) hco.2 rfl rfl⟩

theorem createTaskRun {request : TaskRunRequest} {answer : Except ClientError TaskRun}
    {left : World} {scope : Scope} (h : w.Hosts hold id)
    (he : w.createTaskRun request = (answer, left)) (hs : w.scopes.head? = some scope)
    (hr : request.flowRun = scope.runId) : (∃ task, answer = .ok task) ∧ left.Hosts hold id := by
  obtain ⟨c, hc, ha, hp⟩ := h.client
  obtain ⟨r, hfind⟩ := Option.isSome_iff_exists.1 (hp scope hs)
  rw [← hr] at hfind
  have hcreate : (∃ task, (c.createTaskRun w.ids request).1 = .ok task) ∧
      (∃ connects taskRuns, (c.createTaskRun w.ids request).2.1.orchestrator =
        { c.orchestrator with connects, taskRuns }) ∧
      (c.createTaskRun w.ids request).2.2.runs = w.ids.runs := by
    simp only [LocalClient.createTaskRun, LocalClient.note, ha.unscripted.taskCreations,
      Script.take, Orchestrator.createTaskRun, hfind]
    exact ⟨⟨_, rfl⟩, ⟨_, _, rfl⟩, rfl⟩
  have hw : w.createTaskRun request = ((c.createTaskRun w.ids request).1,
      { w with
        client := .inMemory (c.createTaskRun w.ids request).2.1
        ids := (c.createTaskRun w.ids request).2.2 }.record
          (.createTaskRun request (c.createTaskRun w.ids request).1)) := by
    simp only [World.createTaskRun, Client.createTaskRun, hc]
  cases he.symm.trans hw
  exact ⟨hcreate.1, h.of_store hc rfl (c.becomes_createTaskRun w.ids w.now request) hcreate.2.1
    hcreate.2.2 rfl⟩

/-- A run that is created is stored as it was asked for. -/
theorem createFlowRun {request : FlowRunRequest} {answer : Except ClientError FlowRun}
    {left : World} (h : w.Hosts hold id) (he : w.createFlowRun request = (answer, left)) :
    answer = .ok (request.record id w.now) ∧ left.client.Holds hold id
      { record := request.record id w.now, policy := request.policy } [] := by
  obtain ⟨c, hc, ha, -⟩ := h.client
  have hb := (c.becomes_createFlowRun w.ids w.now request).unscripted ha.unscripted
  have hcreate : (c.createFlowRun w.ids w.now request).1 = .ok (request.record id w.now) ∧
      (c.createFlowRun w.ids w.now request).2.1.orchestrator =
        (c.orchestrator.createFlowRun id w.now request).2 := by
    simp only [LocalClient.createFlowRun, LocalClient.note, ha.unscripted.creations, Script.take,
      IdSupply.takeRun, ← h.next]
    exact ⟨rfl, rfl⟩
  have hw : w.createFlowRun request = ((c.createFlowRun w.ids w.now request).1,
      { w with
        client := .inMemory (c.createFlowRun w.ids w.now request).2.1
        ids := (c.createFlowRun w.ids w.now request).2.2 }.record
          (.createFlowRun request (c.createFlowRun w.ids w.now request).1)) := by
    simp only [World.createFlowRun, Client.createFlowRun, hc]
  cases he.symm.trans hw
  refine ⟨hcreate.1, _, rfl, hb, ?_, ?_, ?_⟩
  · rw [hcreate.2, ← ha.hold]
    rfl
  · rw [hcreate.2]
    exact Orchestrator.find?_createFlowRun_self ha.unknown
  · rw [hcreate.2]
    exact ha.unproposed

theorem board (h : w.Hosts hold id) (entry : Entry) :
    ∃ entered, w.board entry = (.ok (), entered) ∧ entered.Hosts hold id := by
  cases entry with
  | await => exact ⟨w, rfl, h⟩
  | block =>
    by_cases hr : w.onRuntime
    · have hf := h.fork
      refine ⟨{ w.fork.2 with onRuntime := true }, ?_, hf.2.next, hf.2.client⟩
      simp only [World.board, hr, if_true, hf.1]
    · refine ⟨{ w with onRuntime := true }, ?_, h.next, h.client⟩
      simp [World.board, hr]

end Hosts

end World

/-! ## Setting up a run -/

namespace Engine

/-- The engine drives the run that is stored under `id`, and has the state that is stored. -/
structure InStep (e : Engine) (w : World) (hold : Nat) (id : Uuid) (r : StoredRun)
    (log : List StateType) : Prop where
  drives : e.Drives id
  state : e.state? = some r.record.state
  holds : w.client.Holds hold id r log

variable {e : Engine} {w : World} {limit hold : Nat} {id : Uuid}

theorem exists_link (h : w.Hosts hold id) :
    ∃ task left, e.link w = (.ok task, left) ∧ left.Hosts hold id := by
  simp only [link]
  split
  · exact ⟨_, w, rfl, h⟩
  · rename_i parent rest hs
    have hscoped := @World.Hosts.withScope w hold id parent
      (parent.nextDynamicKey e.flow.taskKey).2 rest h hs rfl
    split <;> rename_i heq <;> obtain ⟨⟨task, htask⟩, hh⟩ := hscoped.createTaskRun heq rfl rfl
    · exact ⟨_, _, rfl, hh⟩
    · cases htask

/-- The record that is created is pending, and stored as the engine got it. -/
theorem exists_create (h : w.Hosts hold id) : ∃ r left, e.create w = (.ok r.record, left) ∧
    left.client.Holds hold id r [] ∧ r.IsNew e.flow ∧ r.record.id = id := by
  obtain ⟨task, linked, hlink, hh⟩ := exists_link (e := e) h
  simp only [create, hlink]
  split <;> rename_i heq <;> obtain ⟨hok, hholds⟩ := hh.createFlowRun heq
  · cases hok
    exact ⟨_, _, rfl, hholds, ⟨rfl, rfl, rfl, rfl, rfl⟩, rfl⟩
  · cases hok

theorem ensureRecord_of_hosts (h : w.Hosts hold id) (hr : e.record = none) :
    ∃ r left, e.ensureRecord w = (.ok r.record, { e with record := some r.record }, left) ∧
      left.client.Holds hold id r [] ∧ r.IsNew e.flow ∧ r.record.id = id := by
  obtain ⟨r, left, hc, hh⟩ := exists_create (e := e) h
  exact ⟨r, left, by simp only [ensureRecord, hr, hc], hh⟩

/-- The engine of a run that was created, before its parameters are checked. -/
def created (e : Engine) (r : StoredRun) : Engine :=
  { e with connected := true, record := some r.record }

/-- Everything that comes before the parameters is granted. -/
theorem exists_created (h : w.Hosts hold id) (hr : e.record = none) (hc : e.connected = false) :
    ∃ r left, left.client.Holds hold id r [] ∧ r.IsNew e.flow ∧ r.record.id = id ∧
      w.Leads (·.isClerical) left ∧
      ∀ limit e' w', (e.created r).checkParameters limit left = some (.ok (), e', w') →
        e.start limit w = some (.ok (), e'.openScope, w') := by
  obtain ⟨hok, hh⟩ := h.connect
  have hconnect : w.connect = (.ok (), w.connect.2) := Prod.ext hok rfl
  obtain ⟨r, left, hrec, hholds, hnew, hid⟩ :=
    ensureRecord_of_hosts (e := { e with connected := true }) hh hr
  have hleads := (prepares_ensureRecord { e with connected := true } w.connect.2).leads
  rw [hrec] at hleads
  refine ⟨r, left, hholds, hnew, hid, (World.prepares_connect w).leads.trans hleads,
    fun limit e' w' hcheck => ?_⟩
  rw [created] at hcheck
  simp only [start, hc, Bool.false_eq_true, if_false]
  rw [hconnect]
  simp only [setup, hrec, hcheck]

/-- Valid parameters are settled, and nothing is proposed for that. -/
theorem exists_checkParameters_of_accepts (limit : Nat) (w : World)
    (hp : e.flow.Accepts e.parameters) : ∃ parameters,
      e.checkParameters limit w = some (.ok (), { e with parameters }, w) := by
  by_cases hv : e.flow.validates
  · rcases hp with hn | ⟨settled, hs⟩
    · exact absurd hv (by simp [hn])
    · exact ⟨settled, by simp [checkParameters, hv, hs]⟩
  · exact ⟨e.parameters, by simp [checkParameters, hv]⟩

/-- **A run with valid parameters is set up as it is stored.** -/
theorem start_of_valid (limit : Nat) (h : w.Hosts hold id) (hr : e.record = none)
    (ha : e.standing = .active) (hc : e.connected = false)
    (hp : e.flow.Accepts e.parameters) : ∃ e' r left,
      e.start limit w = some (.ok (), e', left) ∧ e'.InStep left hold id r [] ∧ r.IsNew e.flow ∧
      e'.flow = e.flow ∧ e'.invocations = e.invocations ∧ w.Leads (·.isClerical) left := by
  obtain ⟨r, left, hholds, hnew, hid, hleads, hstart⟩ := exists_created h hr hc
  obtain ⟨parameters, hcheck⟩ := exists_checkParameters_of_accepts (e := e.created r) limit left hp
  exact ⟨_, r, left, hstart limit _ _ hcheck,
    ⟨⟨rfl, ha, ⟨r.record, rfl, hid⟩, rfl⟩, rfl, hholds⟩, hnew, rfl, rfl, hleads⟩

/-- A run with invalid parameters is over when it has been set up. -/
theorem start_of_invalid {invalid : ValidationError} (h : w.Hosts hold id) (hr : e.record = none)
    (ha : e.standing = .active) (hc : e.connected = false) (hv : e.flow.validates)
    (hi : e.flow.schema.validate e.parameters = .error invalid) (hl : 0 < limit) :
    ∃ e' r left, e.start limit w = some (.ok (), e', left) ∧ e'.IsOver r.record.state ∧
      e'.connected ∧ left.client.Holds hold id r [.failed] ∧ r.record.state.isFinal ∧
      w.Spends 0 0 left := by
  obtain ⟨r, left, hholds, hnew, rfl, hleads, hstart⟩ := exists_created h hr hc
  let s := e.flow.rejection left.now invalid
  have hjudge : (r.judge hold left.now s).2 = r.put s r.record.runCount := by
    refine StoredRun.judge_failed ?_ rfl ?_
    · simp [State.isFinal, hnew.state, StateType.isFinal]
    · simp [StoredRun.mayRetry, State.isRunning, hnew.state, StateType.isRunning]
  have hx : (e.created r).handleException limit left { fault := .validation invalid }
      validationMessage (e.created r).flow.capture =
      some (.ok s, (e.created r).apply s, (left.propose r.record.id s).2) := by
    have hset := setState_of_holds (e := e.created r) (s := s) ha rfl rfl hholds hl
    rwa [hjudge] at hset
  have hcheck : (e.created r).checkParameters limit left = some (.ok (),
      { (e.created r).apply s with standing := .shortCircuited s },
      (left.propose r.record.id s).2) := by
    have hv' : (e.created r).flow.validates := hv
    have hi' : (e.created r).flow.schema.validate (e.created r).parameters = .error invalid := hi
    simp only [checkParameters, hv', hi', hx, Bool.not_true, Bool.false_eq_true, if_false]
  obtain ⟨hh, hp⟩ := holds_propose hholds s
  rw [hjudge] at hh
  exact ⟨_, _, _, hstart limit _ _ hcheck, ⟨rfl, rfl, rfl⟩, rfl, hh, rfl,
    hleads.spends.trans hp.spends⟩

end Engine

end RunEngine
