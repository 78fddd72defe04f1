import RunEngine.Proofs.Permanence
import RunEngine.Proofs.Visits

/-!
# What is created on the way

Runs and task runs are created by two calls, and every other operation leaves the list of them
alone. `World.creations` is that list as the journal has it, for all runs that were at work between
two worlds, each creation with the depth of the engine that asked for it.

`World.Yields w made w'` says that `made` is the list, and that it is all that happened to a store
in memory, as long as this store decides about creations itself (`LocalClient.Grants`): it has those
runs and task runs more, under the identifiers that were next in the supply, and every run in it is
linked as it was before. `Yields` composes, and each operation has one lemma for it.

A store finds a run by its identifier. What is said about links is therefore said for stores in
which no two runs have one identifier, which is so when those in the supply are new to it
(`World.Fresh`).
-/

namespace RunEngine

/-! ## Creations -/

/-- A record that was created. -/
inductive Creation where
  | task (task : TaskRun)
  | run (run : FlowRun)

namespace Creation

def task? : Creation → Option TaskRun
  | task t => some t
  | run _ => none

def run? : Creation → Option FlowRun
  | task _ => none
  | run r => some r

/-- The task runs among creations. -/
def tasks (made : List (Nat × Creation)) : List TaskRun := made.filterMap (·.2.task?)

/-- The runs among creations. -/
def runs (made : List (Nat × Creation)) : List FlowRun := made.filterMap (·.2.run?)

variable {made more : List (Nat × Creation)} {depth : Nat}

@[simp] theorem tasks_nil : tasks [] = [] := rfl

@[simp] theorem runs_nil : runs [] = [] := rfl

@[simp] theorem tasks_task (t : TaskRun) : tasks [(depth, task t)] = [t] := rfl

@[simp] theorem tasks_run (r : FlowRun) : tasks [(depth, run r)] = [] := rfl

@[simp] theorem runs_task (t : TaskRun) : runs [(depth, task t)] = [] := rfl

@[simp] theorem runs_run (r : FlowRun) : runs [(depth, run r)] = [r] := rfl

@[simp] theorem tasks_append : tasks (made ++ more) = tasks made ++ tasks more :=
  List.filterMap_append ..

@[simp] theorem runs_append : runs (made ++ more) = runs made ++ runs more :=
  List.filterMap_append ..

end Creation

/-- The record that an event created. -/
def Event.creation? : Event → Option Creation
  | createTaskRun _ (.ok task) => some (.task task)
  | createFlowRun _ (.ok run) => some (.run run)
  | _ => none

/-- What was created between two worlds, in order, each with the depth of the engine it is for. -/
def World.creations (w w' : World) : List (Nat × Creation) :=
  (w'.journal.events.drop w.journal.events.length).filterMap fun p =>
    p.2.creation?.map (p.1, ·)

/-! ## Stores -/

/-- What stays of a run as it was created: its identifier and the task run that stands for it. -/
def FlowRun.link (run : FlowRun) : Uuid × Option Uuid := (run.id, run.parentTaskRun)

namespace Orchestrator

/-- The stored runs in order of creation, each with the task run that stands for it. -/
def links (o : Orchestrator) : List (Uuid × Option Uuid) := o.flowRuns.map FlowRun.link

/-- What the store `o` becomes when `made` is created, among other operations. -/
structure Gains (o : Orchestrator) (made : List (Nat × Creation)) (o' : Orchestrator) : Prop where
  ids : o'.ids = o.ids ++ (Creation.runs made).map (·.id)
  links : o'.ids.Nodup → o'.links = o.links ++ (Creation.runs made).map FlowRun.link
  taskRuns : o'.taskRuns = o.taskRuns ++ Creation.tasks made

variable {o o' o'' : Orchestrator} {made more : List (Nat × Creation)} {id : Uuid}
  {time : Timestamp} {s : State}

theorem Gains.trans (h : o.Gains made o') (h' : o'.Gains more o'') :
    o.Gains (made ++ more) o'' where
  ids := by rw [h'.ids, h.ids, Creation.runs_append, List.map_append, List.append_assoc]
  links hn := by
    have hn' : o'.ids.Nodup := (List.nodup_append.1 (h'.ids ▸ hn)).1
    rw [h'.links hn, h.links hn', Creation.runs_append, List.map_append, List.append_assoc]
  taskRuns := by rw [h'.taskRuns, h.taskRuns, Creation.tasks_append, List.append_assoc]

theorem gains_nil (hs : o'.stored = o.stored) (ht : o'.taskRuns = o.taskRuns) : o.Gains [] o' where
  ids := by simp [Orchestrator.ids, hs]
  links _ := by simp [Orchestrator.links, flowRuns, hs]
  taskRuns := by simp [ht]

theorem Gains.refl (o : Orchestrator) : o.Gains [] o := gains_nil rfl rfl

theorem gains_connect (o : Orchestrator) : o.Gains [] o.connect.2 := by
  unfold connect
  split <;> exact gains_nil rfl rfl

/-- A proposal creates nothing, and leaves the links as they are. -/
theorem gains_propose : o.Gains [] (o.propose time id s).2 where
  ids := by simp
  links hn := by
    rw [ids_propose] at hn
    obtain ⟨state, runCount, hruns⟩ := exists_flowRuns_propose (s := s) hn
    rw [Orchestrator.links, hruns, List.map_map, Creation.runs_nil, List.map_nil, List.append_nil]
    refine List.map_congr_left fun r _ => ?_
    simp only [Function.comp]
    split <;> rfl
  taskRuns := by simp

theorem gains_createFlowRun (o : Orchestrator) (id : Uuid) (time : Timestamp)
    (request : FlowRunRequest) (depth : Nat) :
    o.Gains [(depth, .run (request.record id time))] (o.createFlowRun id time request).2 where
  ids := by simp [createFlowRun, Orchestrator.ids]
  links _ := by simp [createFlowRun, Orchestrator.links, flowRuns]
  taskRuns := by simp [createFlowRun]

end Orchestrator

/-! ## Supplies -/

namespace IdSupply

/-- The identifiers of runs that are handed out between two supplies. -/
def runsTo (ids ids' : IdSupply) : List Uuid :=
  (List.range' ids.runs (ids'.runs - ids.runs)).map .ofRun

/-- The identifiers of task runs that are handed out between two supplies. -/
def tasksTo (ids ids' : IdSupply) : List Uuid :=
  (List.range' ids.tasks (ids'.tasks - ids.tasks)).map .ofTask

/-- What was created got the identifiers that were handed out. -/
structure Issues (ids : IdSupply) (made : List (Nat × Creation)) (ids' : IdSupply) : Prop where
  runs_le : ids.runs ≤ ids'.runs
  tasks_le : ids.tasks ≤ ids'.tasks
  runs : (Creation.runs made).map (·.id) = ids.runsTo ids'
  tasks : (Creation.tasks made).map (·.id) = ids.tasksTo ids'

variable {ids ids' ids'' : IdSupply} {made more : List (Nat × Creation)}

theorem Issues.refl (ids : IdSupply) : ids.Issues [] ids :=
  ⟨Nat.le_refl _, Nat.le_refl _, by simp [runsTo], by simp [tasksTo]⟩

theorem range'_of_le {a b c : Nat} (hab : a ≤ b) (hbc : b ≤ c) :
    List.range' a (c - a) = List.range' a (b - a) ++ List.range' b (c - b) := by
  obtain ⟨m, rfl⟩ := Nat.exists_eq_add_of_le hab
  obtain ⟨n, rfl⟩ := Nat.exists_eq_add_of_le hbc
  rw [show a + m + n - a = m + n by omega, show a + m - a = m by omega,
    show a + m + n - (a + m) = n by omega, ← List.range'_append_1]

theorem Issues.trans (h : ids.Issues made ids') (h' : ids'.Issues more ids'') :
    ids.Issues (made ++ more) ids'' where
  runs_le := Nat.le_trans h.runs_le h'.runs_le
  tasks_le := Nat.le_trans h.tasks_le h'.tasks_le
  runs := by
    rw [Creation.runs_append, List.map_append, h.runs, h'.runs, runsTo, runsTo, runsTo,
      ← List.map_append, range'_of_le h.runs_le h'.runs_le]
  tasks := by
    rw [Creation.tasks_append, List.map_append, h.tasks, h'.tasks, tasksTo, tasksTo, tasksTo,
      ← List.map_append, range'_of_le h.tasks_le h'.tasks_le]

theorem issues_takeRun {run : FlowRun} (h : run.id = ids.takeRun.1) (depth : Nat) :
    ids.Issues [(depth, .run run)] ids.takeRun.2 :=
  ⟨Nat.le_succ _, Nat.le_refl _, by simp [runsTo, takeRun, h], by simp [tasksTo, takeRun]⟩

theorem issues_takeTask {task : TaskRun} (h : task.id = ids.takeTask.1) (depth : Nat) :
    ids.Issues [(depth, .task task)] ids.takeTask.2 :=
  ⟨Nat.le_refl _, Nat.le_succ _, by simp [runsTo, takeTask], by simp [tasksTo, takeTask, h]⟩

end IdSupply

/-! ## Clients -/

namespace LocalClient

/-- The orchestrator decides about creations itself. -/
structure Grants (c : LocalClient) : Prop where
  creations : c.creations = []
  taskCreations : c.taskCreations = []

/-- What the client `c` becomes when `made` is created, among other calls. -/
structure Gains (c : LocalClient) (made : List (Nat × Creation)) (c' : LocalClient) : Prop where
  grants : c'.Grants
  store : c.orchestrator.Gains made c'.orchestrator

variable {c c' : LocalClient}

/-- A call that neither uses up answers to creations nor creates anything. -/
theorem Grants.gains (hc : c.Grants) (hcreations : c'.creations = c.creations)
    (htasks : c'.taskCreations = c.taskCreations)
    (h : c.orchestrator.Gains [] c'.orchestrator) : c.Gains [] c' :=
  ⟨⟨hcreations.trans hc.creations, htasks.trans hc.taskCreations⟩, h⟩

theorem gains_connect (hc : c.Grants) : c.Gains [] c.connect.2 := by
  simp only [connect, note]
  split
  · exact hc.gains rfl rfl (.refl _)
  · exact hc.gains rfl rfl c.orchestrator.gains_connect

theorem gains_close (hc : c.Grants) : c.Gains [] c.close :=
  hc.gains rfl rfl (Orchestrator.gains_nil rfl rfl)

theorem gains_fork (hc : c.Grants) : c.Gains [] c.fork.2 := by
  simp only [fork, note]
  split <;> exact hc.gains rfl rfl (.refl _)

theorem gains_propose (hc : c.Grants) (time : Timestamp) (id : Uuid) (s : State) :
    c.Gains [] (c.propose time id s).2 := by
  simp only [propose, note]
  split
  · exact hc.gains rfl rfl (.refl _)
  · exact hc.gains rfl rfl Orchestrator.gains_propose

/-- A run is created as it is asked for, under the next identifier. -/
theorem gains_createFlowRun (hc : c.Grants) (ids : IdSupply) (time : Timestamp)
    (request : FlowRunRequest) (depth : Nat) :
    ∃ c', c.createFlowRun ids time request =
        (.ok (request.record ids.takeRun.1 time), c', ids.takeRun.2) ∧
      c.Gains [(depth, .run (request.record ids.takeRun.1 time))] c' := by
  simp only [createFlowRun, note, hc.creations, Script.take]
  exact ⟨_, rfl, ⟨rfl, hc.taskCreations⟩, c.orchestrator.gains_createFlowRun ..⟩

/-- A task run is registered as it is asked for, under the next identifier, or not at all. -/
theorem gains_createTaskRun (hc : c.Grants) (ids : IdSupply) (request : TaskRunRequest)
    (depth : Nat) :
    (∃ error c', c.createTaskRun ids request = (.error error, c', ids) ∧ c.Gains [] c') ∨
    ∃ c', c.createTaskRun ids request =
        (.ok { id := ids.takeTask.1, task := request }, c', ids.takeTask.2) ∧
      c.Gains [(depth, .task { id := ids.takeTask.1, task := request })] c' := by
  simp only [createTaskRun, note, hc.taskCreations, Script.take, Orchestrator.createTaskRun]
  cases c.orchestrator.find? request.flowRun with
  | none => exact .inl ⟨_, _, rfl, ⟨hc.creations, rfl⟩, .refl _⟩
  | some _ =>
    refine .inr ⟨_, rfl, ⟨hc.creations, rfl⟩, ?_, fun _ => ?_, ?_⟩ <;>
      simp [Orchestrator.ids, Orchestrator.links, Orchestrator.flowRuns]

end LocalClient

/-! ## Worlds -/

namespace World

/-- The client is one in memory, and its orchestrator decides about creations itself. -/
def Grants (w : World) : Prop := ∃ c, w.client = .inMemory c ∧ c.Grants

/-- `w'` comes after `w` within the same runs, and in between `made` was created. -/
structure Yields (w : World) (made : List (Nat × Creation)) (w' : World) : Prop where
  around : w'.scopes.map (·.runId) = w.scopes.map (·.runId)
  events : ∃ es, w'.journal.events = w.journal.events ++ es ∧
    es.filterMap (fun p => p.2.creation?.map (p.1, ·)) = made
  store : ∀ c, w.client = .inMemory c → c.Grants → w.ids.Issues made w'.ids ∧
    ∃ c', w'.client = .inMemory c' ∧ c.Gains made c'

/-- The identifiers handed out between two worlds are new to a store: none is in it, and none is
handed out twice. -/
structure Fresh (w w' : World) (o : Orchestrator) : Prop where
  runs : (o.ids ++ w.ids.runsTo w'.ids).Nodup
  tasks : (o.taskRuns.map (·.id) ++ w.ids.tasksTo w'.ids).Nodup

variable {w w' w'' : World} {made more : List (Nat × Creation)}

theorem Yields.trans (h : w.Yields made w') (h' : w'.Yields more w'') :
    w.Yields (made ++ more) w'' where
  around := h'.around.trans h.around
  events := by
    obtain ⟨es, he, hm⟩ := h.events
    obtain ⟨es', he', hm'⟩ := h'.events
    exact ⟨es ++ es', by rw [he', he, List.append_assoc], by rw [List.filterMap_append, hm, hm']⟩
  store c hc hg := by
    obtain ⟨hi, c', hc', hs⟩ := h.store c hc hg
    obtain ⟨hi', c'', hc'', hs'⟩ := h'.store c' hc' hs.grants
    exact ⟨hi.trans hi', c'', hc'', hs'.grants, hs.store.trans hs'.store⟩

/-- Nothing more is created. -/
theorem Yields.before (h : w.Yields made w') (h' : w'.Yields [] w'') : w.Yields made w'' := by
  have hall := h.trans h'
  rwa [List.append_nil] at hall

theorem Yields.length (h : w.Yields made w') : w'.scopes.length = w.scopes.length := by
  simpa using congrArg List.length h.around

theorem Yields.grants (h : w.Yields made w') (hw : w.Grants) : w'.Grants := by
  obtain ⟨c, hc, hg⟩ := hw
  obtain ⟨-, c', hc', hs⟩ := h.store c hc hg
  exact ⟨c', hc', hs.grants⟩

theorem Yields.creations (h : w.Yields made w') : w.creations w' = made := by
  obtain ⟨es, he, hm⟩ := h.events
  rw [World.creations, he, List.drop_left, hm]

/-- What the engine at the depth of `w` created. -/
theorem filterMap_conduct (w w' : World) : (w.conduct w').filterMap Event.creation? =
    ((w.creations w').filter (·.1 == w.scopes.length)).map (·.2) := by
  rw [World.conduct, World.creations]
  generalize w'.journal.events.drop w.journal.events.length = es
  induction es with
  | nil => rfl
  | cons p es ih =>
    rw [List.filter_cons, List.filterMap_cons]
    cases hp : p.2.creation? <;> by_cases hd : p.1 == w.scopes.length <;>
      simp [hp, hd, ih]

/-- A change that neither the journal nor the client shows. -/
theorem yields_silent (ha : w'.scopes.map (·.runId) = w.scopes.map (·.runId))
    (he : w'.journal.events = w.journal.events) (hc : w'.client = w.client)
    (hi : w'.ids = w.ids) : w.Yields [] w' where
  around := ha
  events := ⟨[], by simp [he], rfl⟩
  store c hw hg := ⟨hi ▸ .refl _, c, hc.trans hw, hg, .refl _⟩

theorem Yields.refl (w : World) : w.Yields [] w := yields_silent rfl rfl rfl rfl

/-- A call of the client that creates nothing. -/
theorem yields_call {client : Client} {event : Event} (he : event.creation? = none)
    (h : ∀ c, w.client = .inMemory c → c.Grants → ∃ c', client = .inMemory c' ∧ c.Gains [] c') :
    w.Yields [] ({ w with client }.record event) where
  around := rfl
  events := ⟨[(w.scopes.length, event)], rfl, by simp [he]⟩
  store c hc hg := ⟨.refl _, h c hc hg⟩

theorem yields_connect (w : World) : w.Yields [] w.connect.2 :=
  yields_call rfl fun c hc hg => ⟨c.connect.2, congrArg (·.connect.2) hc, c.gains_connect hg⟩

theorem yields_close (w : World) : w.Yields [] w.close :=
  yields_call rfl fun c hc hg => ⟨c.close, congrArg (·.close) hc, c.gains_close hg⟩

theorem yields_fork (w : World) : w.Yields [] w.fork.2 :=
  yields_call rfl fun c hc hg => ⟨c.fork.2, congrArg (·.fork.2) hc, c.gains_fork hg⟩

theorem yields_propose (w : World) (id : Uuid) (s : State) : w.Yields [] (w.propose id s).2 :=
  yields_call rfl fun c hc hg =>
    ⟨(c.propose w.now id s).2, congrArg (fun client => (client.propose w.now id s).2) hc,
      c.gains_propose hg ..⟩

theorem yields_sleep (w : World) (duration : Nat) : w.Yields [] (w.sleep duration) :=
  yields_silent rfl rfl rfl rfl

theorem yields_record {event : Event} (w : World) (he : event.creation? = none) :
    w.Yields [] (w.record event) where
  around := rfl
  events := ⟨[(w.scopes.length, event)], rfl, by simp [he]⟩
  store c hc hg := ⟨.refl _, c, hc, hg, .refl _⟩

theorem yields_settle (w : World) (group : TaskGroup) : w.Yields [] (w.settle group) where
  around := rfl
  events := ⟨[(w.scopes.length, .settle group.effective)], rfl, rfl⟩
  store c hc hg := ⟨.refl _, c, hc, hg, .refl _⟩

theorem yields_report (w : World) (s : State) : w.Yields [] (w.report s) := by
  unfold report
  split
  · exact .refl w
  · rename_i scope rest hs
    have hsame : w.Yields [] { w with scopes := scope.recordChild s :: rest } :=
      yields_silent (by rw [hs]; rfl) rfl rfl rfl
    exact hsame.before (yields_record _ rfl)

theorem yields_withScope {scope scope' : Scope} {rest : List Scope}
    (hs : w.scopes = scope :: rest) (hid : scope'.runId = scope.runId) :
    w.Yields [] (w.withScope scope') :=
  yields_silent (by simp [withScope, hs, hid]) rfl rfl rfl

/-- Whatever a body takes for an action creates nothing. -/
theorem yields_perform (w : World) (action : Action) : w.Yields [] (w.perform action).2 := by
  cases action with
  | note | sleep | occupy => exact yields_silent rfl rfl rfl rfl
  | log | look | snapshot =>
    simp only [perform, inScope]
    split <;> exact yields_silent rfl rfl rfl rfl
  | print =>
    simp only [perform, inScope]
    split
    · exact .refl w
    · split <;> exact yields_silent rfl rfl rfl rfl
  | dynamicKey | spawn =>
    simp only [perform, inScope]
    split
    · exact .refl w
    · rename_i hs
      exact yields_withScope hs rfl
  | propose s =>
    simp only [perform, inScope]
    split
    · exact .refl w
    · rename_i scope _ _
      have hstore : ∀ c, w.client = .inMemory c → c.Grants → ∃ c',
          (w.client.propose w.now scope.runId s).2 = .inMemory c' ∧ c.Gains [] c' :=
        fun c hc hg => ⟨(c.propose w.now scope.runId s).2,
          congrArg (fun client => (client.propose w.now scope.runId s).2) hc,
          c.gains_propose hg ..⟩
      exact ⟨rfl, ⟨[], (List.append_nil _).symm, rfl⟩, fun c hc hg => ⟨.refl _, hstore c hc hg⟩⟩

theorem yields_board (w : World) (entry : Entry) : w.Yields [] (w.board entry).2 := by
  cases entry with
  | await => exact .refl w
  | block =>
    simp only [board]
    split
    · exact (yields_fork w).before (yields_silent rfl rfl rfl rfl)
    · exact yields_silent rfl rfl rfl rfl

/-- A run is created as it is asked for. -/
theorem yields_createFlowRun {request : FlowRunRequest} {answer : Except ClientError FlowRun}
    (hw : w.Grants) (h : w.createFlowRun request = (answer, w')) :
    ∃ run, answer = .ok run ∧ run.parentTaskRun = request.parentTaskRun ∧
      w.Yields [(w.scopes.length, .run run)] w' := by
  obtain ⟨c, hc, hg⟩ := hw
  obtain ⟨c', hcreate, hgains⟩ := c.gains_createFlowRun hg w.ids w.now request w.scopes.length
  simp only [World.createFlowRun, Client.createFlowRun, hc, hcreate] at h
  cases h
  refine ⟨_, rfl, rfl, rfl, ⟨[(w.scopes.length, _)], rfl, rfl⟩, fun d hd _ => ?_⟩
  obtain rfl : c = d := by simpa [hc] using hd
  exact ⟨IdSupply.issues_takeRun rfl _, c', rfl, hgains⟩

/-- A task run is registered as it is asked for, or not at all. -/
theorem yields_createTaskRun {request : TaskRunRequest} {answer : Except ClientError TaskRun}
    (hw : w.Grants) (h : w.createTaskRun request = (answer, w')) :
    (∃ error, answer = .error error) ∧ w.Yields [] w' ∨
    ∃ task, answer = .ok task ∧ task.task = request ∧
      w.Yields [(w.scopes.length, .task task)] w' := by
  obtain ⟨c, hc, hg⟩ := hw
  obtain ⟨error, c', hcreate, hgains⟩ | ⟨c', hcreate, hgains⟩ :=
    c.gains_createTaskRun hg w.ids request w.scopes.length
  · simp only [World.createTaskRun, Client.createTaskRun, hc, hcreate] at h
    cases h
    refine .inl ⟨⟨error, rfl⟩, yields_call rfl fun d hd _ => ?_⟩
    obtain rfl : c = d := by simpa [hc] using hd
    exact ⟨c', rfl, hgains⟩
  · simp only [World.createTaskRun, Client.createTaskRun, hc, hcreate] at h
    cases h
    refine .inr ⟨_, rfl, rfl, rfl, ⟨[(w.scopes.length, _)], rfl, rfl⟩, fun d hd _ => ?_⟩
    obtain rfl : c = d := by simpa [hc] using hd
    exact ⟨IdSupply.issues_takeTask rfl _, c', rfl, hgains⟩

end World

/-! ## Engines -/

namespace Engine

open World

variable {e e' : Engine} {w w' : World} {limit : Nat} {s : State}

theorem yields_proposeUntilAnswered {id : Uuid} {r : Except EngineError State}
    (h : proposeUntilAnswered id s limit w = some (r, w')) : w.Yields [] w' := by
  induction limit generalizing w with
  | zero => simp [proposeUntilAnswered] at h
  | succ limit ih =>
    have hp := w.yields_propose id s
    simp only [proposeUntilAnswered] at h
    split at h <;> rename_i heq <;> rw [heq] at hp
    case h_3 => exact (hp.before (yields_sleep ..)).before (ih h)
    all_goals
      cases h
      exact hp

theorem yields_setState {r : Except EngineError State}
    (h : e.setState limit w s = some (r, e', w')) : w.Yields [] w' := by
  simp only [setState] at h
  split at h
  · cases h
    exact .refl w
  · split at h
    · cases h
      exact .refl w
    · split at h
      · cases h
        exact .refl w
      · split at h <;> cases h <;> rename_i heq <;> exact yields_proposeUntilAnswered heq

theorem yields_checkParameters {r : Except EngineError Unit}
    (h : e.checkParameters limit w = some (r, e', w')) : w.Yields [] w' := by
  simp only [checkParameters] at h
  split at h
  · cases h
    exact .refl w
  · split at h
    · cases h
      exact .refl w
    · split at h <;> cases h <;> rename_i heq <;> exact yields_setState heq

/-- What is created while a body is invoked is created in the body. -/
theorem yields_enter {scope : Scope} {made : List (Nat × Creation)}
    {outcome : Except Failure Json} (h : (e.enter scope w).Yields made w') :
    w.Yields made ({ w' with scopes := w'.scopes.tail }.record (.returned outcome)) where
  around := by
    have haround : w'.scopes.map (·.runId) = scope.runId :: w.scopes.map (·.runId) := h.around
    simp only [World.record, List.map_tail, haround, List.tail_cons]
  events := by
    obtain ⟨es, he, hm⟩ := h.events
    refine ⟨(w.scopes.length, .invoke e.parameters) :: es ++
      [(w'.scopes.tail.length, .returned outcome)], ?_, ?_⟩
    · simp [World.record, he, enter]
    · simpa [Event.creation?, List.filterMap_append, List.filterMap_cons] using hm
  store := h.store

theorem yields_finish (e : Engine) (w : World) : w.Yields [] (e.finish w).2 := by
  simp only [finish]
  split
  · exact .refl w
  · refine Yields.before ?_ (yields_close _)
    split <;> split
    · exact (yields_settle ..).before (yields_report ..)
    · exact yields_report ..
    · exact yields_settle ..
    · exact .refl w

end Engine

end RunEngine
