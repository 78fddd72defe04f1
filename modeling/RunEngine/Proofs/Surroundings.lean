import RunEngine.Proofs.Comeback

/-!
# What engines leave alone

Most of what an engine does are calls on its client and waiting. These leave all open scopes as they
are, and of the journal everything but its events (`World.Undisturbed`). There are two exceptions
around a run: to register itself its engine takes a key of the scope around it
(`Engine.enlisted_start`), and when it is finished it waits for its background tasks and reports its
state there (`Engine.finish_eq`). Between the two the run is driven, and whatever its body does, the
scopes around it are not touched (`Engine.scopes_driven`).

So there are two ways for a request to come back: its run was not started, or it was started, driven
and finished (**`World.runFlow_cases`**).
-/

namespace RunEngine

/-- A scope in which nothing has happened yet, with the tasks that a caller supplied. -/
structure Scope.IsNew (scope : Scope) (group : TaskGroup) : Prop where
  group : scope.group = group
  children : scope.children = []
  dynamicKeys : scope.dynamicKeys = ∅

/-! ## Worlds -/

namespace World

variable {w w' w'' entered : World}

/-- Between the two worlds nothing happened but calls and waiting: the scopes are the same, and no
background task took effect. -/
structure Undisturbed (w w' : World) : Prop where
  scopes : w'.scopes = w.scopes
  background : w'.journal.background = w.journal.background

theorem Undisturbed.refl (w : World) : w.Undisturbed w := ⟨rfl, rfl⟩

theorem Undisturbed.trans (h : w.Undisturbed w') (h' : w'.Undisturbed w'') : w.Undisturbed w'' :=
  ⟨h'.scopes.trans h.scopes, h'.background.trans h.background⟩

theorem undisturbed_connect (w : World) : w.Undisturbed w.connect.2 := ⟨rfl, rfl⟩

theorem undisturbed_close (w : World) : w.Undisturbed w.close := ⟨rfl, rfl⟩

theorem undisturbed_sleep (w : World) (duration : Nat) : w.Undisturbed (w.sleep duration) :=
  ⟨rfl, rfl⟩

theorem undisturbed_propose (w : World) (id : Uuid) (s : State) :
    w.Undisturbed (w.propose id s).2 := ⟨rfl, rfl⟩

theorem undisturbed_createTaskRun (w : World) (request : TaskRunRequest) :
    w.Undisturbed (w.createTaskRun request).2 := ⟨rfl, rfl⟩

theorem undisturbed_createFlowRun (w : World) (request : FlowRunRequest) :
    w.Undisturbed (w.createFlowRun request).2 := ⟨rfl, rfl⟩

theorem undisturbed_board {client : Client} {entry : Entry} {outcome : Except ClientError Unit}
    (h : { w with client }.board entry = (outcome, entered)) : w.Undisturbed entered := by
  cases entry with
  | await =>
    cases h
    exact ⟨rfl, rfl⟩
  | block =>
    simp only [board] at h
    split at h <;> cases h <;> exact ⟨rfl, rfl⟩

theorem undisturbed_alight (w : World) (request : RunRequest) (left : World) :
    left.Undisturbed (w.alight request left) := by
  unfold alight
  cases request.entry <;> dsimp only <;> split <;> exact ⟨rfl, rfl⟩

/-- The innermost scope was asked for a key, if for anything. -/
inductive ScopesEnlisted : List Scope → List Scope → Prop
  | same (scopes : List Scope) : ScopesEnlisted scopes scopes
  | asked (scope : Scope) (taskKey : String) (rest : List Scope) :
      ScopesEnlisted (scope :: rest) ((scope.nextDynamicKey taskKey).2 :: rest)

/-- Between the two worlds nothing happened but calls and waiting, and the innermost scope was asked
for a key or not. -/
structure Enlisted (w w' : World) : Prop where
  scopes : ScopesEnlisted w.scopes w'.scopes
  background : w'.journal.background = w.journal.background

theorem Undisturbed.enlisted (h : w.Undisturbed w') : w.Enlisted w' :=
  ⟨h.scopes ▸ .same _, h.background⟩

theorem Undisturbed.before (h : w.Undisturbed w') (h' : w'.Enlisted w'') : w.Enlisted w'' :=
  ⟨h.scopes ▸ h'.scopes, h'.background.trans h.background⟩

theorem Enlisted.after (h : w.Enlisted w') (h' : w'.Undisturbed w'') : w.Enlisted w'' :=
  ⟨h'.scopes ▸ h.scopes, h'.background.trans h.background⟩

/-- What has nothing to do with the keys of a scope stays as it is. -/
theorem Enlisted.map_scopes {α : Type} {f : Scope → α} (h : w.Enlisted w')
    (hf : ∀ scope taskKey, f (Scope.nextDynamicKey scope taskKey).2 = f scope) :
    w'.scopes.map f = w.scopes.map f := by
  obtain ⟨hscopes, -⟩ := h
  generalize w.scopes = ss at hscopes ⊢
  generalize w'.scopes = ss' at hscopes ⊢
  cases hscopes with
  | same => rfl
  | asked scope taskKey rest => simp only [List.map_cons, hf]

end World

namespace Engine

open World

variable {e e' : Engine} {w w' : World} {limit : Nat} {s : State} {body : Invoke}
  {vs : List Visit}

/-! ## Proposals -/

theorem undisturbed_proposeUntilAnswered {id : Uuid} {r : Except EngineError State}
    (h : proposeUntilAnswered id s limit w = some (r, w')) : w.Undisturbed w' := by
  induction limit generalizing w with
  | zero => simp [proposeUntilAnswered] at h
  | succ limit ih =>
    have hp := w.undisturbed_propose id s
    simp only [proposeUntilAnswered] at h
    split at h <;> rename_i heq <;> rw [heq] at hp
    case h_3 => exact (hp.trans (undisturbed_sleep ..)).trans (ih h)
    all_goals
      cases h
      exact hp

theorem undisturbed_setState {r : Except EngineError State}
    (h : e.setState limit w s = some (r, e', w')) : w.Undisturbed w' := by
  simp only [setState] at h
  split at h
  · cases h
    exact .refl w
  · split at h
    · cases h
      exact .refl w
    · split at h
      · cases h
        exact .refl w
      · split at h <;> cases h <;> rename_i heq <;> exact undisturbed_proposeUntilAnswered heq

/-- What has nothing to do with the state of a scope stays as it is. -/
theorem map_scope_setState {α : Type} {f : Scope → α} {r : Except EngineError State}
    (h : e.setState limit w s = some (r, e', w'))
    (hf : ∀ scope state, f { scope with state } = f scope) :
    e'.scope.map f = e.scope.map f := by
  cases proposes_setState h with
  | shortCircuited | notStarted | unrecorded => rfl
  | @answered _ _ r =>
    cases r with
    | ok recorded => simp [conclude, apply, Function.comp_def, hf]
    | error => rfl

theorem undisturbed_checkParameters {r : Except EngineError Unit}
    (h : e.checkParameters limit w = some (r, e', w')) : w.Undisturbed w' := by
  simp only [checkParameters] at h
  split at h
  · cases h
    exact .refl w
  · split at h
    · cases h
      exact .refl w
    · split at h <;> cases h <;> rename_i heq <;> exact undisturbed_setState heq

/-! ## Starting -/

/-- To register a run takes a key of the enclosing scope, and nothing else. -/
theorem enlisted_link (e : Engine) (w : World) : w.Enlisted (e.link w).2 := by
  simp only [link]
  split
  · exact (Undisturbed.refl w).enlisted
  · rename_i scope rest hs
    have hkey : w.Enlisted (w.withScope (scope.nextDynamicKey e.flow.taskKey).2) := by
      refine ⟨?_, rfl⟩
      rw [withScope, hs]
      exact .asked scope e.flow.taskKey rest
    split <;> rename_i heq
    all_goals exact hkey.after (congrArg Prod.snd heq ▸ undisturbed_createTaskRun ..)

theorem enlisted_create (e : Engine) (w : World) : w.Enlisted (e.create w).2 := by
  have hlink := enlisted_link e w
  simp only [create]
  split <;> rename_i heq <;> rw [heq] at hlink
  · exact hlink
  · split <;> rename_i hcreate
    all_goals exact hlink.after (congrArg Prod.snd hcreate ▸ undisturbed_createFlowRun ..)

theorem enlisted_ensureRecord (e : Engine) (w : World) : w.Enlisted (e.ensureRecord w).2.2 := by
  have hcreate := enlisted_create e w
  simp only [ensureRecord]
  split
  · exact (Undisturbed.refl w).enlisted
  · split <;> rename_i heq <;> rw [heq] at hcreate <;> exact hcreate

theorem enlisted_setup {r : Except EngineError Unit} (h : e.setup limit w = some (r, e', w')) :
    w.Enlisted w' := by
  have hensure := enlisted_ensureRecord e w
  simp only [setup] at h
  split at h <;> rename_i heq <;> rw [heq] at hensure
  · cases h
    exact hensure
  · split at h <;> cases h <;> rename_i hcheck
    all_goals exact hensure.after (undisturbed_checkParameters hcheck)

theorem enlisted_start {r : Except EngineError Unit}
    (h : e.start limit w = some (r, e', w')) : w.Enlisted w' := by
  have hconnect := w.undisturbed_connect
  simp only [start] at h
  split at h
  · cases h
    exact (Undisturbed.refl w).enlisted
  · split at h <;> rename_i heq <;> rw [heq] at hconnect
    · cases h
      exact hconnect.enlisted
    · split at h <;> cases h <;> rename_i hsetup
      · exact hconnect.before (enlisted_setup hsetup)
      · exact (hconnect.before (enlisted_setup hsetup)).after (undisturbed_close _)

/-- A run that was started has a new scope, with the background tasks that its caller supplied. -/
theorem isNew_start (hc : e.connected = false) (h : e.start limit w = some (.ok (), e', w')) :
    ∀ scope ∈ e'.scope, scope.IsNew (e.group.getD {}) := by
  have hconclude (e : Engine) (r : Except EngineError State) : (e.conclude r).group = e.group := by
    cases r <;> rfl
  have hopen (e₁ : Engine) (hg : e₁.group = e.group) :
      ∀ scope ∈ e₁.openScope.scope, scope.IsNew (e.group.getD {}) := by
    intro scope hs
    obtain ⟨run, -, rfl⟩ := Option.map_eq_some_iff.1 hs
    exact ⟨congrArg (Option.getD · {}) hg, rfl, rfl⟩
  cases starts_start h with
  | already hconnected => cases hconnected.symm.trans hc
  | started _ _ _ _ hchecks =>
    cases hchecks with
    | settled => exact hopen _ rfl
    | rejected hp =>
      cases hp with
      | shortCircuited => exact hopen _ rfl
      | answered => exact hopen _ (hconclude ..)

/-! ## Driving -/

/-- A run that is driven leaves the scopes around it alone. -/
theorem scopes_driven (hb : body.KeepsFrame) (h : Driven body e w vs e' w') :
    w'.scopes = w.scopes := by
  induction h with
  | nil => rfl
  | propose _ hset ih => exact (undisturbed_setState hset).scopes.trans ih
  | sleep _ _ ih => exact ih
  | invoke _ hs hinvoke ih =>
    rw [← ih]
    obtain ⟨inside, hrun, rfl, rfl⟩ := exists_run_of_invoke hs hinvoke
    obtain ⟨own, hp, -⟩ := hb.leads hrun
    exact hp.outer

/-- A run that is driven keeps its scope. -/
theorem isSome_scope_driven (hb : body.KeepsFrame) (he : e.scope.isSome)
    (h : Driven body e w vs e' w') : e'.scope.isSome := by
  induction h with
  | nil => exact he
  | propose _ hset ih =>
    rw [← Option.isSome_map (f := fun _ => ()), map_scope_setState hset fun _ _ => rfl,
      Option.isSome_map]
    exact ih
  | sleep _ _ ih => exact ih
  | invoke _ hs hinvoke =>
    obtain ⟨inside, hrun, rfl, rfl⟩ := exists_run_of_invoke hs hinvoke
    obtain ⟨own, hp, -⟩ := hb.leads hrun
    rw [List.isSome_head?, ← List.length_pos_iff, hp.depth]
    exact Nat.succ_pos _

/-! ## Finishing -/

/-- **To finish a run** its engine waits for the background tasks, reports the state and releases
the client. -/
theorem finish_eq {scope : Scope} (hc : e.connected) (hscope : e.scope = some scope)
    (hs : e.state? = some s) (w : World) :
    e.finish w = ({ e with connected := false, scope := none },
      ((w.settle scope.group).report s).close) := by
  simp [finish, hc, hscope, hs]

end Engine

namespace World

variable {w entered started left : World} {limit : Nat} {body : Invoke} {flow : Flow}
  {request : RunRequest} {e : Engine} {s : State}

/-- What has nothing to do with the nested runs of a scope stays as it is when one reports. -/
theorem map_scopes_report {α : Type} {f : Scope → α} (w : World) (s : State)
    (hf : ∀ scope, f (Scope.recordChild scope s) = f scope) :
    (w.report s).scopes.map f = w.scopes.map f := by
  unfold report
  split
  · rfl
  · rename_i hs
    simp [World.record, hs, hf]

/-! ## Requests -/

theorem Launches.exists_scope (h : w.Launches limit flow request entered e started) :
    ∃ scope, e.scope = some scope :=
  Option.isSome_iff_exists.1 (Engine.isSome_scope_start rfl rfl h.start)

theorem Launches.visits (h : w.Launches limit flow request entered e started) :
    w.visits limit body flow request = e.driveVisits limit body request.options started := by
  obtain ⟨client, hc, hboard⟩ := h.boarded
  obtain ⟨scope, hs⟩ := h.exists_scope
  simp [World.visits, Engine.allVisits, hc, hboard, h.start, hs]

theorem Launches.enlisted (h : w.Launches limit flow request entered e started) :
    w.Enlisted started := by
  obtain ⟨client, -, hboard⟩ := h.boarded
  exact (undisturbed_board hboard).before (Engine.enlisted_start h.start)

/-- A run that was driven is finished in the scopes that it was started in. -/
theorem Launches.exists_finish {e' : Engine} {driven : World}
    {outcome : Except EngineError RunOutput}
    (h : w.Launches limit flow request entered e started) (hb : body.KeepsFrame)
    (hd : e.drive limit body request.options started = some (outcome, e', driven)) :
    ∃ scope s, e'.scope = some scope ∧ e'.state? = some s ∧ driven.scopes = started.scopes ∧
      (e'.finish driven).2 = ((driven.settle scope.group).report s).close := by
  have hdriven := Engine.driven_drive hd
  obtain ⟨scope, hs⟩ := h.exists_scope
  have hsome : e.scope.isSome := by rw [hs]; rfl
  obtain ⟨scope', hs'⟩ := Option.isSome_iff_exists.1 (Engine.isSome_scope_driven hb hsome hdriven)
  obtain ⟨-, s, -, hstate, -⟩ := h.exists_leaves hb hd
  have hconnected : e'.connected :=
    (Engine.connected_driven hdriven).trans (Engine.connected_start h.start)
  exact ⟨scope', s, hs', hstate, Engine.scopes_driven hb hdriven,
    congrArg Prod.snd (Engine.finish_eq hconnected hs' hstate driven)⟩

/-- A request whose run was started comes back when its driver has, and then the run is finished. -/
theorem Launches.exists_drive {reply : RunReply}
    (hlaunch : w.Launches limit flow request entered e started)
    (h : w.runFlow limit body flow request = some (reply, left)) :
    ∃ e' driven, e.drive limit body request.options started = some (reply.outcome, e', driven) ∧
      left = w.alight request (e'.finish driven).2 := by
  obtain ⟨client, hc, hboard⟩ := hlaunch.boarded
  obtain ⟨scope, hs⟩ := hlaunch.exists_scope
  simp only [runFlow, hc, hboard, Engine.execute, hlaunch.start, hs, Option.isNone_some,
    Bool.false_eq_true, if_false] at h
  cases hd : e.drive limit body request.options started with
  | none => simp [hd] at h
  | some step =>
    obtain ⟨outcome, e', driven⟩ := step
    simp only [hd] at h
    cases h
    exact ⟨e', driven, rfl, rfl⟩

/-- **How a request comes back.** Its run was not started, and then neither its body was invoked nor
is there a run that came back. Or the run was started, driven and finished. -/
theorem runFlow_cases {reply : RunReply}
    (h : w.runFlow limit body flow request = some (reply, left)) :
    (w.visits limit body flow request = [] ∧ w.comeback? limit body flow request = none ∧
      w.Enlisted left) ∨
    ∃ entered e started e' driven, w.Launches limit flow request entered e started ∧
      e.drive limit body request.options started = some (reply.outcome, e', driven) ∧
      left = w.alight request (e'.finish driven).2 := by
  have hrun := h
  simp only [runFlow] at h
  split at h
  · rename_i hc
    cases h
    exact .inl ⟨by simp [visits, hc], by simp [comeback?, hc], (Undisturbed.refl w).enlisted⟩
  · rename_i client hc
    split at h <;> rename_i hboard
    · cases h
      refine .inl ⟨by simp [visits, hc, hboard], by simp [comeback?, hc, hboard], ?_⟩
      exact (undisturbed_board hboard).enlisted.after (undisturbed_alight ..)
    · split at h
      · cases h
      · rename_i hexecute
        cases h
        simp only [Engine.execute] at hexecute
        split at hexecute
        · cases hexecute
        · rename_i hstart
          cases hexecute
          refine .inl ⟨by simp [visits, Engine.allVisits, hc, hboard, hstart],
            by simp [comeback?, hc, hboard, hstart], ?_⟩
          exact ((undisturbed_board hboard).before (Engine.enlisted_start hstart)).after
            (undisturbed_alight ..)
        · rename_i hstart
          have hlaunch : w.Launches limit flow request _ _ _ := ⟨⟨client, hc, hboard⟩, hstart⟩
          obtain ⟨e', driven, hd, hleft⟩ := hlaunch.exists_drive hrun
          exact .inr ⟨_, _, _, e', driven, hlaunch, hd, hleft⟩

end World

end RunEngine
