import RunEngine.Proofs.Lineage
import RunEngine.Proofs.WholeRun

/-!
# Runs that nothing is done about

An orchestrator in memory keeps many runs, and an engine is concerned with one of them: it creates a
run under the next identifier, and what it proposes it proposes for that run. All that is kept of
other runs stays as it is, also of runs that do not exist yet (`Client.Bypasses`). This is shown for
one operation after the other, up to a run that is set up (`Engine.bypasses_start`) and one that is
admitted (`World.Admitted.bypasses`). After its body was invoked an engine does not touch other runs
either (`Engine.bypasses_since`), whatever the body did about them.

So a run takes up the identifier that it is created under and nothing else: if there was room for a
number of runs, then its body finds room for one less (`World.HasRoom.enter`).
-/

namespace RunEngine

/-! ## Clients -/

namespace LocalClient

variable {c d d' : LocalClient} {id other : Uuid}

/-- The client `d` comes after `c`, neither goes by a script, and nothing was done about the run
`id` in between: it is stored as it was, if at all, and nothing more was proposed for it. -/
structure Bypasses (id : Uuid) (c d : LocalClient) : Prop where
  unscripted : d.Unscripted
  hold : d.orchestrator.hold = c.orchestrator.hold
  unreachable : d.orchestrator.unreachable = c.orchestrator.unreachable
  found : d.orchestrator.find? id = c.orchestrator.find? id
  proposals : d.orchestrator.proposals id = c.orchestrator.proposals id

theorem Bypasses.refl (id : Uuid) (hc : c.Unscripted) : c.Bypasses id c := ⟨hc, rfl, rfl, rfl, rfl⟩

theorem Bypasses.trans (h : c.Bypasses id d) (h' : d.Bypasses id d') : c.Bypasses id d' where
  unscripted := h'.unscripted
  hold := h'.hold.trans h.hold
  unreachable := h'.unreachable.trans h.unreachable
  found := h'.found.trans h.found
  proposals := h'.proposals.trans h.proposals

/-- An identifier that was not used is still not used. -/
theorem Bypasses.admits {hold : Nat} (h : c.Bypasses id d) (hc : c.Admits hold id) :
    d.Admits hold id where
  unscripted := h.unscripted
  reachable := h.unreachable.trans hc.reachable
  hold := h.hold.trans hc.hold
  unknown := h.found.trans hc.unknown
  unproposed := h.proposals.trans hc.unproposed

theorem bypasses_connect (id : Uuid) (hc : c.Unscripted) : c.Bypasses id c.connect.2 := by
  refine ⟨(c.becomes_connect default).unscripted hc, ?_, ?_, ?_, ?_⟩ <;>
    simp only [connect, note, hc.connects, Script.take, Orchestrator.connect] <;> split <;> rfl

theorem bypasses_close (id : Uuid) (hc : c.Unscripted) : c.Bypasses id c.close :=
  ⟨(c.becomes_close default).unscripted hc, rfl, rfl, rfl, rfl⟩

theorem bypasses_fork (id : Uuid) (hc : c.Unscripted) : c.Bypasses id c.fork.2 := by
  refine ⟨(c.becomes_fork default).unscripted hc, ?_, ?_, ?_, ?_⟩ <;>
    simp only [fork, note, hc.forkError]

theorem bypasses_createTaskRun (id : Uuid) (hc : c.Unscripted) (ids : IdSupply)
    (request : TaskRunRequest) : c.Bypasses id (c.createTaskRun ids request).2.1 := by
  refine ⟨(c.becomes_createTaskRun ids default request).unscripted hc, ?_, ?_, ?_, ?_⟩ <;>
    simp only [createTaskRun, note, hc.taskCreations, Script.take, Orchestrator.createTaskRun] <;>
    split <;> rfl

/-- A run that is created makes no difference to those with other identifiers. -/
theorem bypasses_createFlowRun (hc : c.Unscripted) (ids : IdSupply) (time : Timestamp)
    (request : FlowRunRequest) (hid : ids.takeRun.1 ≠ id) :
    c.Bypasses id (c.createFlowRun ids time request).2.1 := by
  refine ⟨(c.becomes_createFlowRun ids time request).unscripted hc, ?_, ?_, ?_, ?_⟩ <;>
    simp only [createFlowRun, note, hc.creations, Script.take]
  · rfl
  · rfl
  · have hother : (ids.takeRun.1 == id) = false := by simpa using hid
    simp [Orchestrator.createFlowRun, Orchestrator.find?, FlowRunRequest.record, hother]
  · rfl

/-- A proposal makes no difference to runs that it is not for. -/
theorem bypasses_propose (hc : c.Unscripted) (time : Timestamp) (hid : other ≠ id) (s : State) :
    c.Bypasses id (c.propose time other s).2 := by
  have hb := (c.orchestrator.becomes_propose time other s).proposals id
  rw [statesFor_other hid, List.map_nil, List.append_nil] at hb
  refine ⟨(c.becomes_propose time other s).unscripted hc, ?_, ?_, ?_, ?_⟩ <;>
    simp only [propose, note, hc.answers, Script.take]
  · exact Orchestrator.hold_propose
  · exact Orchestrator.unreachable_propose
  · exact Orchestrator.find?_propose_other (Ne.symm hid)
  · exact hb

end LocalClient

namespace Client

variable {a b c : Client} {id other : Uuid} {hold : Nat} {r : StoredRun} {log : List StateType}

/-- The client `b` comes after `a`, and if both are in memory and go by no script, then nothing was
done about the run `id` in between. -/
structure Bypasses (id : Uuid) (a b : Client) : Prop where
  exists_local : ∀ c, a = .inMemory c → c.Unscripted → ∃ d, b = .inMemory d ∧ c.Bypasses id d

theorem Bypasses.refl (id : Uuid) (a : Client) : a.Bypasses id a :=
  ⟨fun c hc hu => ⟨c, hc, .refl id hu⟩⟩

theorem Bypasses.trans (h : a.Bypasses id b) (h' : b.Bypasses id c) : a.Bypasses id c := by
  refine ⟨fun x hx hu => ?_⟩
  obtain ⟨y, hy, hxy⟩ := h.exists_local x hx hu
  obtain ⟨z, hz, hyz⟩ := h'.exists_local y hy hxy.unscripted
  exact ⟨z, hz, hxy.trans hyz⟩

/-- A run that nothing was done about is held as before. -/
theorem Bypasses.holds (h : a.Bypasses id b) (ha : a.Holds hold id r log) :
    b.Holds hold id r log := by
  obtain ⟨c, hc, hu, rfl, hf, rfl⟩ := ha
  obtain ⟨d, hd, hcd⟩ := h.exists_local c hc hu
  exact ⟨d, hd, hcd.unscripted, hcd.hold, hcd.found.trans hf, hcd.proposals⟩

/-- Nothing was proposed for it. -/
theorem Bypasses.statesSince_eq_nil {time : Timestamp} (h : a.Bypasses id b)
    (hb : a.Becomes time b) (ha : a.Holds hold id r log) : a.statesSince b id = [] := by
  obtain ⟨c, hc, -, -, -, hlog⟩ := ha.becomes hb
  obtain ⟨d, hd, -, -, -, hlog'⟩ := h.holds ha
  obtain rfl : c = d := by simpa [hc] using hd
  exact List.map_eq_nil_iff.1 (List.self_eq_append_right.1 (hlog'.symm.trans hlog))

theorem bypasses_connect (id : Uuid) (a : Client) : a.Bypasses id a.connect.2 := by
  constructor
  rintro c rfl hc
  exact ⟨_, rfl, c.bypasses_connect id hc⟩

theorem bypasses_close (id : Uuid) (a : Client) : a.Bypasses id a.close := by
  constructor
  rintro c rfl hc
  exact ⟨_, rfl, c.bypasses_close id hc⟩

theorem bypasses_fork (id : Uuid) (a : Client) : a.Bypasses id a.fork.2 := by
  constructor
  rintro c rfl hc
  exact ⟨_, rfl, c.bypasses_fork id hc⟩

theorem bypasses_createTaskRun (id : Uuid) (a : Client) (ids : IdSupply)
    (request : TaskRunRequest) : a.Bypasses id (a.createTaskRun ids request).2.1 := by
  constructor
  rintro c rfl hc
  exact ⟨_, rfl, c.bypasses_createTaskRun id hc ids request⟩

theorem bypasses_createFlowRun (a : Client) (ids : IdSupply) (time : Timestamp)
    (request : FlowRunRequest) (hid : ids.takeRun.1 ≠ id) :
    a.Bypasses id (a.createFlowRun ids time request).2.1 := by
  constructor
  rintro c rfl hc
  exact ⟨_, rfl, c.bypasses_createFlowRun hc ids time request hid⟩

theorem bypasses_propose (a : Client) (time : Timestamp) (hid : other ≠ id) (s : State) :
    a.Bypasses id (a.propose time other s).2 := by
  constructor
  rintro c rfl hc
  exact ⟨_, rfl, c.bypasses_propose hc time hid s⟩

/-- A task run takes no identifier of a run. -/
theorem runs_createTaskRun (a : Client) (ids : IdSupply) (request : TaskRunRequest) :
    (a.createTaskRun ids request).2.2.runs = ids.runs := by
  cases a with
  | remote => rfl
  | inMemory c =>
    simp only [createTaskRun, LocalClient.createTaskRun]
    split
    · rfl
    · dsimp only
      split <;> rfl

end Client

/-! ## Engines -/

namespace Engine

variable {e e' : Engine} {w w' entered : World} {limit : Nat} {id other : Uuid} {s : State}

theorem bypasses_proposeUntilAnswered {r : Except EngineError State} (hid : other ≠ id)
    (h : proposeUntilAnswered other s limit w = some (r, w')) : w.client.Bypasses id w'.client := by
  induction limit generalizing w with
  | zero => simp [proposeUntilAnswered] at h
  | succ limit ih =>
    have hp : w.client.Bypasses id (w.propose other s).2.client :=
      w.client.bypasses_propose w.now hid s
    simp only [proposeUntilAnswered] at h
    split at h <;> rename_i heq <;> rw [heq] at hp
    case h_3 =>
      rename_i left
      exact hp.trans (ih (w := left.sleep _) h)
    all_goals
      cases h
      exact hp

/-- A proposal does not change which run an engine has a record of. -/
theorem map_id_setState {r : Except EngineError State}
    (h : e.setState limit w s = some (r, e', w')) :
    e'.record.map (·.id) = e.record.map (·.id) := by
  cases proposes_setState h with
  | shortCircuited | notStarted | unrecorded => rfl
  | @answered _ _ r =>
    cases r with
    | ok recorded => simp [conclude, apply, Function.comp_def]
    | error => rfl

/-- An engine proposes for the run that it has a record of. -/
theorem bypasses_setState {r : Except EngineError State} (hid : e.record.map (·.id) ≠ some id)
    (h : e.setState limit w s = some (r, e', w')) : w.client.Bypasses id w'.client := by
  simp only [setState] at h
  split at h
  · cases h
    exact .refl ..
  · split at h
    · cases h
      exact .refl ..
    · split at h
      · cases h
        exact .refl ..
      · rename_i hrun
        rw [hrun, Option.map_some, ne_eq, Option.some_inj] at hid
        split at h <;> cases h <;> rename_i heq <;> exact bypasses_proposeUntilAnswered hid heq

/-- So it does until its run is admitted. -/
theorem bypasses_awaitAdmission {backoff : Nat} {r : Except EngineError Unit}
    (hid : e.record.map (·.id) ≠ some id)
    (h : e.awaitAdmission backoff limit w = some (r, e', w')) :
    w.client.Bypasses id w'.client := by
  induction limit generalizing e w with
  | zero => simp [awaitAdmission] at h
  | succ limit ih =>
    simp only [awaitAdmission] at h
    split at h
    · cases h
    · rename_i hset
      cases h
      exact bypasses_setState hid hset
    · rename_i e₁ w₁ hset
      have hbypasses := bypasses_setState hid hset
      split at h
      · have hid₁ : e₁.record.map (·.id) ≠ some id := by rwa [map_id_setState hset]
        exact hbypasses.trans (ih (w := w₁.sleep backoff) hid₁ h)
      · cases h
        exact hbypasses

/-! ## Starting -/

/-- To register a run makes no difference to any run. -/
theorem bypasses_link (id : Uuid) (e : Engine) (w : World) :
    w.client.Bypasses id (e.link w).2.client := by
  simp only [link]
  split
  · exact .refl ..
  · split <;> rename_i heq
    all_goals exact congrArg (·.2.client) heq ▸ Client.bypasses_createTaskRun ..

/-- And it takes no identifier of a run. -/
theorem nextRun_link (e : Engine) (w : World) : (e.link w).2.nextRun = w.nextRun := by
  simp only [link]
  split
  · rfl
  · split <;> rename_i heq
    all_goals
      refine congrArg (fun step => World.nextRun step.2) heq.symm |>.trans ?_
      exact congrArg Uuid.ofRun (Client.runs_createTaskRun ..)

/-- A run is created under the next identifier. -/
theorem bypasses_create (hid : w.nextRun ≠ id) (e : Engine) :
    w.client.Bypasses id (e.create w).2.client := by
  have hlink := bypasses_link id e w
  have hnext := nextRun_link e w
  simp only [create]
  split <;> rename_i heq <;> rw [heq] at hlink hnext
  · exact hlink
  · rename_i linked
    have hid' : linked.ids.takeRun.1 ≠ id := fun h => hid (hnext.symm.trans h)
    split <;> rename_i hcreate
    all_goals
      refine hlink.trans (congrArg (·.2.client) hcreate ▸ ?_)
      exact linked.client.bypasses_createFlowRun linked.ids linked.now _ hid'

/-- An engine that is to create a record makes a difference to the run of that record only. -/
theorem bypasses_setup (hid : w.nextRun ≠ id) (hr : e.record = none)
    (hp : e.flow.Accepts e.parameters) (h : e.setup limit w = some (.ok (), e', w')) :
    w.client.Bypasses id w'.client := by
  have hcreate := bypasses_create hid e
  simp only [setup, ensureRecord, hr] at h
  cases hcreated : e.create w with
  | mk outcome created =>
    rw [hcreated] at hcreate
    cases outcome with
    | error =>
      simp only [hcreated] at h
      cases h
    | ok run =>
      obtain ⟨parameters, hcheck⟩ := exists_checkParameters_of_accepts
        (e := { e with record := some run }) limit created hp
      simp only [hcreated, hcheck] at h
      cases h
      exact hcreate

theorem bypasses_start (hid : w.nextRun ≠ id) (hr : e.record = none) (hc : e.connected = false)
    (hp : e.flow.Accepts e.parameters) (h : e.start limit w = some (.ok (), e', w')) :
    w.client.Bypasses id w'.client := by
  have hconnect : w.client.Bypasses id w.connect.2.client := w.client.bypasses_connect id
  simp only [start, hc, Bool.false_eq_true, if_false] at h
  split at h <;> rename_i hanswer
  · cases h
  · rename_i connected
    have hnext : connected.nextRun = w.nextRun := congrArg (·.2.nextRun) hanswer.symm
    rw [hanswer] at hconnect
    split at h <;> cases h
    rename_i hsetup
    have hset : connected.client.Bypasses id w'.client :=
      bypasses_setup (e := { e with connected := true }) (hnext ▸ hid) hr hp hsetup
    exact hconnect.trans hset

/-! ## Driving -/

/-- A run that is driven stays the one that its engine has a record of. -/
theorem map_id_driven {body : Invoke} {vs : List Visit} (h : Driven body e w vs e' w') :
    e'.record.map (·.id) = e.record.map (·.id) := by
  induction h with
  | nil => rfl
  | propose _ hset ih => exact (map_id_setState hset).trans ih
  | sleep _ _ ih => exact ih
  | invoke _ _ hinvoke ih =>
    obtain ⟨_, _, -, -, rfl, -⟩ := exists_inside_of_invoke hinvoke
    exact ih

/-- Since the last invocation of its body, an engine made a difference to its own run only. -/
theorem bypasses_since {body : Invoke} {vs : List Visit} {v : Visit}
    {outcome : Except Failure Json} {inside : World}
    (h : Driven body e w (vs ++ [v]) e' w') (hid : e.record.map (·.id) ≠ some id)
    (hv : v.run body = some (outcome, inside)) : inside.client.Bypasses id w'.client := by
  generalize hall : vs ++ [v] = all at h
  induction h with
  | nil => simp at hall
  | propose hdriven hset ih =>
    have hrecord := map_id_driven hdriven
    exact (ih hall).trans (bypasses_setState (hrecord ▸ hid) hset)
  | sleep _ _ ih => exact ih hall
  | invoke _ hs hinvoke =>
    obtain ⟨-, hlast⟩ := List.append_inj' hall rfl
    cases hlast
    obtain ⟨_, hrun, -, rfl⟩ := exists_run_of_invoke hs hinvoke
    cases hv.symm.trans hrun
    exact .refl ..

end Engine

/-! ## Requests -/

namespace World

variable {w entered started admitted : World} {limit hold : Nat} {flow : Flow}
  {request : RunRequest} {client : Client} {e₁ e : Engine} {r : StoredRun} {id : Uuid}

theorem bypasses_board (id : Uuid) (w : World) (entry : Entry) :
    w.client.Bypasses id (w.board entry).2.client := by
  cases entry with
  | await => exact .refl ..
  | block =>
    simp only [board]
    split
    · exact w.client.bypasses_fork id
    · exact .refl ..

theorem ids_board (w : World) (entry : Entry) : (w.board entry).2.ids = w.ids := by
  cases entry with
  | await => rfl
  | block =>
    simp only [board]
    split <;> rfl

/-- Nothing is done about other runs until a run is admitted. -/
theorem Admitted.bypasses
    (h : w.Admitted limit hold flow request client entered started admitted e₁ e r)
    (hungiven : request.options.flowRun = none) (hp : flow.Accepts request.parameters)
    (hid : w.nextRun ≠ id) : client.Bypasses id admitted.client := by
  have hboard := bypasses_board id { w with client } request.entry
  have hids := ids_board { w with client } request.entry
  rw [h.boarded] at hboard hids
  have hnext : entered.nextRun = w.nextRun :=
    congrArg (fun ids : IdSupply => Uuid.ofRun ids.runs) hids
  have hstart : entered.client.Bypasses id started.client :=
    Engine.bypasses_start (hnext ▸ hid) hungiven rfl hp h.start
  have hdriven := Engine.driven_awaitAdmission (fun _ _ _ => none) h.admission
  have hrecord : e₁.record.map (·.id) ≠ some id := by
    obtain ⟨run, hrun, hrunId⟩ := h.inStep.drives.record
    rw [← Engine.map_id_driven hdriven, hrun, Option.map_some, hrunId, ne_eq, Option.some_inj]
    exact hid
  exact (hboard.trans hstart).trans (Engine.bypasses_awaitAdmission hrecord h.admission)

/-- What is created until a run is admitted is the run itself. Its body gets the scope of it. -/
theorem Admitted.yields
    (h : w.Admitted limit hold flow request client entered started admitted e₁ e r)
    (hungiven : request.options.flowRun = none) (hg : { w with client }.Grants) :
    ∃ made run, Creation.runs made = [run] ∧ { w with client }.Yields made admitted ∧
      e.scope.map (·.runId) = some run.id := by
  have hboard := yields_board { w with client } request.entry
  rw [h.boarded] at hboard
  obtain ⟨⟨_, herror⟩, -⟩ | ⟨made, run, henrolls, hy, hscope⟩ :=
    Engine.enrolls_start (hboard.grants hg) hungiven rfl h.start
  · cases herror
  · have hdriven := Engine.driven_awaitAdmission (fun _ _ _ => none) h.admission
    obtain ⟨hbegets, hscope'⟩ := Engine.begets_driven (f := fun _ => [])
      (hy.grants (hboard.grants hg)) (hscope rfl) (List.forall_mem_nil _) hdriven
    exact ⟨made, run, henrolls.runs, (hboard.trans hy).before hbegets.yields, hscope'⟩

/-- So its body finds that one identifier was taken, and that it is in the run that got it. -/
theorem Admitted.issued
    (h : w.Admitted limit hold flow request client entered started admitted e₁ e r)
    (hungiven : request.options.flowRun = none) (hg : { w with client }.Grants) :
    admitted.ids.runs = w.ids.runs + 1 ∧ e.scope.map (·.runId) = some w.nextRun := by
  obtain ⟨made, run, hmade, hy, hscope⟩ := h.yields hungiven hg
  obtain ⟨c, hc, hgrants⟩ := hg
  obtain ⟨hissues, -⟩ := hy.store c hc hgrants
  have hruns : [run.id] = w.ids.runsTo admitted.ids := by
    rw [show w.ids.runsTo admitted.ids = _ from hissues.runs.symm, hmade]
    rfl
  have hle : w.ids.runs ≤ admitted.ids.runs := hissues.runs_le
  have hcount := congrArg List.length hruns
  rw [IdSupply.runsTo, List.length_map, List.length_range', List.length_singleton] at hcount
  rw [IdSupply.runsTo, ← hcount] at hruns
  refine ⟨by omega, ?_⟩
  rw [hscope, nextRun, List.singleton_inj.1 hruns]

/-! ## Room for nested runs -/

/-- There is room for `n` runs on an orchestrator in memory that holds `hold` proposals to run back:
the identifiers that they will get are distinct and were never used, and the orchestrator knows the
enclosing run, if there is one. -/
structure HasRoom (w : World) (hold n : Nat) : Prop where
  client : ∃ c, w.client = .inMemory c ∧ (∀ i < n, c.Admits hold (.ofRun (w.ids.runs + i))) ∧
    ∀ scope, w.scopes.head? = some scope → (c.orchestrator.find? scope.runId).isSome
  distinct : ∀ i < n, ∀ j < n, Uuid.ofRun (w.ids.runs + i) = .ofRun (w.ids.runs + j) → i = j

namespace HasRoom

variable {w' : World} {n : Nat} {scope : Scope}

/-- The first of the runs can be created. -/
theorem hosts (h : w.HasRoom hold (n + 1)) : w.Hosts hold w.nextRun := by
  obtain ⟨c, hc, hadmits, hparent⟩ := h.client
  exact ⟨rfl, c, hc, hadmits 0 (Nat.succ_pos n), hparent⟩

theorem grants (h : w.HasRoom hold (n + 1)) : w.Grants := by
  obtain ⟨c, hc, hadmits, -⟩ := h.client
  have hu := (hadmits 0 (Nat.succ_pos n)).unscripted
  exact ⟨c, hc, hu.creations, hu.taskCreations⟩

/-- There is as much room where the orchestrator and the supply are the same, in the same run. -/
theorem of_yields (h : w.HasRoom hold n) (hc : w'.client = w.client) (hi : w'.ids = w.ids)
    (ha : w'.scopes.map (·.runId) = w.scopes.map (·.runId)) : w'.HasRoom hold n where
  client := by
    obtain ⟨c, hclient, hadmits, hparent⟩ := h.client
    refine ⟨c, hc.trans hclient, hi ▸ hadmits, fun scope hs => ?_⟩
    have hhead : w'.scopes.head?.map (·.runId) = w.scopes.head?.map (·.runId) := by
      rw [← List.head?_map, ha, List.head?_map]
    rw [hs, Option.map_some] at hhead
    obtain ⟨parent, hp, hid⟩ := Option.map_eq_some_iff.1 hhead.symm
    rw [← hid]
    exact hparent parent hp
  distinct := hi ▸ h.distinct

/-- **A run takes the room of one**, and its body finds that of the others. -/
theorem enter (hroom : { w with client }.HasRoom hold (n + 1))
    (h : w.Admitted limit hold flow request client entered started admitted e₁ e r)
    (hungiven : request.options.flowRun = none) (hp : flow.Accepts request.parameters)
    (hs : e.scope = some scope) : (e.enter scope admitted).HasRoom hold n := by
  obtain ⟨hruns, hscope⟩ := h.issued hungiven hroom.grants
  rw [hs, Option.map_some, Option.some_inj] at hscope
  have hids : (e.enter scope admitted).ids.runs = w.ids.runs + 1 := hruns
  obtain ⟨d, hd, -, -, hfound, -⟩ := h.inStep.holds
  constructor
  · refine ⟨d, hd, fun i hi => ?_, fun scope' hs' => ?_⟩
    · obtain ⟨c, hc, hadmits, -⟩ := hroom.client
      have hlt := Nat.succ_lt_succ hi
      have hne : w.nextRun ≠ .ofRun (w.ids.runs + (i + 1)) := fun heq =>
        absurd (hroom.distinct 0 (Nat.succ_pos n) _ hlt heq) (Nat.succ_ne_zero i).symm
      have hi' := hadmits _ hlt
      obtain ⟨d', hd', hbypasses⟩ := (h.bypasses hungiven hp hne).exists_local c hc hi'.unscripted
      obtain rfl : d = d' := by simpa [hd] using hd'
      rw [hids, Nat.add_right_comm, Nat.add_assoc]
      exact hbypasses.admits hi'
    · cases hs'
      rw [hscope, hfound]
      rfl
  · intro i hi j hj heq
    rw [hids, Nat.add_right_comm, Nat.add_assoc, Nat.add_right_comm, Nat.add_assoc] at heq
    exact Nat.succ.inj (hroom.distinct _ (Nat.succ_lt_succ hi) _ (Nat.succ_lt_succ hj) heq)

end HasRoom

end World

end RunEngine
