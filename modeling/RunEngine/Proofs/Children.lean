import Mathlib.Data.List.Forall2
import RunEngine.Proofs.Surroundings

/-!
# What a run knows of the runs nested in it

The scope of a run has a list of states, one for every nested run that came back. It goes with the
scope from one attempt to the next, and while a nested run is at work the scopes around it wait. At
every point of an execution there are so several such lists, one for every open run.

`Program.comebacks` are the runs that came back to a body, read off the program as it is run.
`Program.Reaches` are the points that an execution comes to: the open scopes, and for each of them
the runs that came back to it in its attempts so far. A nested run may be under way at such a point,
between two invocations of its body or inside of one, and so may be runs nested in that, and none of
them need ever come back.

Every list has the states of the runs that came back, in their order (`Listed`). Starting a run and
driving it leaves the lists around it alone, and finishing it adds one entry to the innermost of
them (`Engine.listed_finish`). A nested run has a smaller program for its body
(`Program.listed_run`), so that is all that happens to them. **`World.listed_of_reaches`** says so
of every point that a request comes to, and what entry a run leaves.
-/

namespace RunEngine

/-! ## Lists of children -/

/-- The states that the open scopes have of nested runs, innermost first. -/
def World.children (w : World) : List (List State) := w.scopes.map (·.children)

/-- The states in each list are those that the runs came back in, one by one. -/
def Listed (children : List (List State)) (returned : List (List Comeback)) : Prop :=
  List.Forall₂ (List.Forall₂ fun s c => c.Leaves s) children returned

/-- The runs `more` came back to the innermost scope. -/
def addComebacks (more : List Comeback) : List (List Comeback) → List (List Comeback)
  | [] => []
  | top :: rest => (top ++ more) :: rest

variable {returned : List (List Comeback)} {c : Comeback} {s : State}

@[simp] theorem addComebacks_nil (returned : List (List Comeback)) :
    addComebacks [] returned = returned := by
  cases returned <;> simp [addComebacks]

theorem addComebacks_append (more further : List Comeback) (returned : List (List Comeback)) :
    addComebacks (more ++ further) returned =
      addComebacks further (addComebacks more returned) := by
  cases returned <;> simp [addComebacks]

theorem Listed.exists_scope {w : World} {top : List Comeback}
    (h : Listed w.children (top :: returned)) :
    ∃ scope rest, w.scopes = scope :: rest ∧
      List.Forall₂ (fun s c => c.Leaves s) scope.children top ∧
      Listed (rest.map (·.children)) returned := by
  rw [World.children] at h
  cases hs : w.scopes with
  | nil =>
    rw [hs] at h
    cases h
  | cons scope rest =>
    rw [hs] at h
    cases h with
    | cons htop hrest => exact ⟨scope, rest, rfl, htop, hrest⟩

/-- A run that is nested in the innermost scope reports the state that it came back in. -/
theorem Listed.report {w : World} (h : Listed w.children returned) (hc : c.Leaves s) :
    Listed (w.report s).children (addComebacks [c] returned) := by
  simp only [World.report, World.children] at h ⊢
  cases hs : w.scopes with
  | nil =>
    rw [hs] at h
    cases h
    simp [hs, Listed, addComebacks]
  | cons scope rest =>
    rw [hs] at h
    cases h with
    | cons htop hrest =>
      exact .cons (List.rel_append htop (.cons hc .nil)) hrest

/-! ## What engines leave alone -/

namespace World

variable {w w' : World}

theorem children_perform (w : World) (action : Action) :
    (w.perform action).2.children = w.children := by
  cases action with
  | note | sleep | occupy => rfl
  | log | look | snapshot =>
    simp only [perform, inScope]
    split <;> rfl
  | print =>
    simp only [perform, inScope]
    split
    · rfl
    · split <;> rfl
  | dynamicKey | spawn =>
    simp only [perform, inScope]
    split
    · rfl
    · rename_i hs
      simp [children, withScope, hs, Scope.nextDynamicKey]
  | propose s =>
    simp only [perform, inScope]
    split <;> rfl

theorem Undisturbed.children (h : w.Undisturbed w') : w'.children = w.children :=
  congrArg (List.map _) h.scopes

theorem Enlisted.children (h : w.Enlisted w') : w'.children = w.children :=
  h.map_scopes fun _ _ => rfl

end World

namespace Engine

open World

variable {e e' : Engine} {w w' : World} {limit : Nat}

/-- Finishing a run adds the state that it is in to the list around it, and changes no other. -/
theorem listed_finish {scope : Scope} (h : Listed w.children returned) (hc : e.connected)
    (hscope : e.scope = some scope) (hs : e.state? = some s) (hl : c.Leaves s) :
    Listed (e.finish w).2.children (addComebacks [c] returned) := by
  rw [finish_eq hc hscope hs]
  exact Listed.report (w := w.settle scope.group) h hl

/-! ## Bodies that are invoked -/

variable {body : Invoke} {f : Visit → List Comeback} {vs : List Visit} {top : List Comeback}
  {scope : Scope}

/-- `f` tells the runs that come back to the body when it is invoked. -/
def TellsComebacks (body : Invoke) (f : Visit → List Comeback) (vs : List Visit) : Prop :=
  ∀ v ∈ vs, ∀ outcome inside returned, v.run body = some (outcome, inside) →
    Listed v.inside.children returned → Listed inside.children (addComebacks (f v) returned)

/-- The engine has a scope, with a list that the runs `top` say. -/
def Records (e : Engine) (top : List Comeback) : Prop :=
  ∃ scope, e.scope = some scope ∧ List.Forall₂ (fun s c => c.Leaves s) scope.children top

theorem records_invoke {outcome : Except Failure Json}
    (hb : TellsComebacks body f [e.visit scope w]) (hs : e.scope = some scope)
    (he : e.Records top) (hw : Listed w.children returned)
    (h : e.invoke body w = some (outcome, e', w')) :
    e'.Records (top ++ f (e.visit scope w)) ∧ Listed w'.children returned := by
  obtain ⟨_, hs', htop⟩ := he
  cases hs.symm.trans hs'
  obtain ⟨inside, hrun, rfl, rfl⟩ := exists_run_of_invoke hs h
  have hinside : Listed inside.children ((top ++ f (e.visit scope w)) :: returned) :=
    hb _ (List.mem_singleton_self _) _ _ (top :: returned) hrun (.cons htop hw)
  obtain ⟨scope', rest, hscopes, htop', hrest⟩ := hinside.exists_scope
  refine ⟨⟨scope', by simp [hscopes], htop'⟩, ?_⟩
  rw [World.children, World.record, hscopes]
  exact hrest

/-- **A run that is driven** adds the runs that come back to its body to its own list, and leaves
the lists around it alone. -/
theorem records_driven (hb : TellsComebacks body f vs) (he : e.Records top)
    (hw : Listed w.children returned) (h : Driven body e w vs e' w') :
    e'.Records (top ++ vs.flatMap f) ∧ Listed w'.children returned := by
  induction h with
  | nil => exact ⟨by simpa using he, hw⟩
  | propose _ hset ih =>
    obtain ⟨⟨scope, hs, htop⟩, hw'⟩ := ih hb
    have hsame := (undisturbed_setState hset).children
    have hscope := map_scope_setState (f := (·.children)) hset fun _ _ => rfl
    rw [hs, Option.map_some, Option.map_eq_some_iff] at hscope
    obtain ⟨scope', hs', hc⟩ := hscope
    exact ⟨⟨scope', hs', hc ▸ htop⟩, hsame ▸ hw'⟩
  | sleep duration _ ih => exact ih hb
  | invoke _ hs hinvoke ih =>
    obtain ⟨hearlier, hlast⟩ := List.forall_mem_append.1 hb
    obtain ⟨he', hw'⟩ := ih hearlier
    rw [List.flatMap_append, List.flatMap_singleton, ← List.append_assoc]
    exact records_invoke hlast hs he' hw' hinvoke

end Engine

/-! ## Requests -/

namespace World

open Engine

variable {w entered started left : World} {limit : Nat} {flow : Flow} {request : RunRequest}
  {e e' : Engine} {body : Invoke} {f : Visit → List Comeback} {vs : List Visit}

/-- A run that was started has an empty list. -/
theorem Launches.records (h : w.Launches limit flow request entered e started)
    (hw : Listed w.children returned) : e.Records [] ∧ Listed started.children returned := by
  obtain ⟨scope, hs⟩ := h.exists_scope
  refine ⟨⟨scope, hs, ?_⟩, by rwa [h.enlisted.children]⟩
  rw [(isNew_start rfl h.start scope hs).children]
  exact .nil

/-- A run that was started adds its entry when its driver comes back. -/
theorem Launches.listed {outcome : Except EngineError RunOutput}
    (h : w.Launches limit flow request entered e started) (hb : body.KeepsFrame)
    (hf : TellsComebacks body f (w.visits limit body flow request))
    (hw : Listed w.children returned)
    (hd : e.drive limit body request.options started = some (outcome, e', left)) :
    Listed (e'.finish left).2.children
      (addComebacks (w.comeback? limit body flow request).toList returned) := by
  obtain ⟨c, s, hc, hs, hl⟩ := h.exists_leaves hb hd
  obtain ⟨he, hstarted⟩ := h.records hw
  rw [h.visits] at hf
  obtain ⟨⟨scope, hscope, -⟩, hleft⟩ := records_driven hf he hstarted (driven_drive hd)
  have hconnected := (connected_driven (driven_drive hd)).trans (connected_start h.start)
  rw [hc]
  exact listed_finish hleft hconnected hscope hs hl

/-- **A nested run adds one entry to the innermost list**, if it was started and its driver came
back. -/
theorem listed_runFlow {reply : RunReply} (hb : body.KeepsFrame)
    (hf : TellsComebacks body f (w.visits limit body flow request))
    (hw : Listed w.children returned)
    (h : w.runFlow limit body flow request = some (reply, left)) :
    Listed left.children
      (addComebacks (w.comeback? limit body flow request).toList returned) := by
  rcases runFlow_cases h with
    ⟨-, hnone, henlisted⟩ | ⟨entered, e, started, e', driven, hlaunch, hd, rfl⟩
  · rw [hnone, henlisted.children]
    simpa using hw
  · rw [(undisturbed_alight ..).children]
    exact hlaunch.listed hb hf hw hd

/-- The run of a request was started, and its driver has made the invocations `vs` and come to the
engine `e` and the world `w'`. -/
def Conducts (w : World) (limit : Nat) (body : Invoke) (flow : Flow) (request : RunRequest)
    (vs : List Visit) (e : Engine) (w' : World) : Prop :=
  ∃ entered e₁ started, w.Launches limit flow request entered e₁ started ∧
    Driven body e₁ started vs e w'

/-- Before each invocation, the driver has made those that come before it. -/
theorem conducts_of_visits {earlier later : List Visit} {v : Visit}
    (h : w.visits limit body flow request = earlier ++ v :: later) :
    ∃ e w' scope, w.Conducts limit body flow request earlier e w' ∧ e.scope = some scope ∧
      v = e.visit scope w' := by
  have hnone {vs : List Visit} (hvs : [] = vs ++ v :: later) : False := by simp at hvs
  simp only [visits] at h
  split at h
  · cases hnone h
  · rename_i client hc
    split at h
    · cases hnone h
    · rename_i entered hboard
      simp only [allVisits] at h
      split at h
      · rename_i e₁ started hstart
        have hlaunch : w.Launches limit flow request entered e₁ started :=
          ⟨⟨client, hc, hboard⟩, hstart⟩
        obtain ⟨scope, hs⟩ := hlaunch.exists_scope
        simp only [hs, Option.isNone_some, Bool.false_eq_true, if_false] at h
        obtain ⟨e, w', scope, hdriven, hs', hv⟩ := driven_of_driveVisits h
        exact ⟨e, w', scope, ⟨entered, e₁, started, hlaunch, hdriven⟩, hs', hv⟩
      · cases hnone h

theorem Conducts.records (h : w.Conducts limit body flow request vs e left)
    (hb : TellsComebacks body f vs) (hw : Listed w.children returned) :
    e.Records (vs.flatMap f) ∧ Listed left.children returned := by
  obtain ⟨entered, e₁, started, hlaunch, hdriven⟩ := h
  obtain ⟨he, hstarted⟩ := hlaunch.records hw
  exact records_driven hb he hstarted hdriven

end World

/-! ## Programs -/

namespace Program

/-- The runs that come back to a body that goes on like this, in their order. -/
def comebacks (limit : Nat) : Program → World → List Comeback
  | .done _, _ => []
  | .perform action next, w => (next (w.perform action).1).comebacks limit (w.perform action).2
  | .runFlow flow body request next, w =>
    let invoke : Invoke := fun n parameters inside => (body n parameters).run limit inside
    match w.runFlow limit invoke flow request with
    | none => []
    | some (reply, left) =>
      (w.comeback? limit invoke flow request).toList ++ (next reply).comebacks limit left

end Program

/-- The runs that come back to a body in one invocation. -/
def Body.comebacks (limit : Nat) (body : Body) (v : Visit) : List Comeback :=
  (body v.invoked v.parameters).comebacks limit v.inside

/-- **A body adds the runs that come back to it to the innermost list**, and changes no other. -/
theorem Program.listed_run {p : Program} {limit : Nat} {w w' : World}
    {outcome : Except Failure Json} (hw : Listed w.children returned)
    (h : p.run limit w = some (outcome, w')) :
    Listed w'.children (addComebacks (p.comebacks limit w) returned) := by
  induction p generalizing w w' returned outcome with
  | done =>
    cases h
    simpa [comebacks] using hw
  | perform action next ih =>
    rw [← w.children_perform action] at hw
    exact ih _ hw h
  | runFlow flow body request next ihBody ihNext =>
    simp only [run] at h
    split at h
    · cases h
    · rename_i reply left hrun
      -- The body of the nested run is a smaller program, whatever it is given.
      have hbody : Engine.TellsComebacks (Body.invoke limit body) (Body.comebacks limit body)
          (w.visits limit (Body.invoke limit body) flow request) :=
        fun v _ outcome inside returned hinside hv => ihBody _ _ hv hinside
      have hleft := World.listed_runFlow (Body.keepsFrame_invoke limit body) hbody hw hrun
      simp only [comebacks, hrun]
      rw [addComebacks_append]
      exact ihNext reply hleft h

theorem Body.tellsComebacks (limit : Nat) (body : Body) (vs : List Visit) :
    Engine.TellsComebacks (body.invoke limit) (body.comebacks limit) vs :=
  fun _ _ _ _ _ hinside hv => Program.listed_run hv hinside

/-! ## Points of an execution -/

/-- The points that come up when a program is run in the world `w`, where the runs `returned` came
back to the scopes around it: the open scopes at a point, innermost first, and for each the runs
that came back to it. -/
inductive Program.Reaches (limit : Nat) : Program → World → List (List Comeback) →
    List Scope → List (List Comeback) → Prop
  /-- The program is about to go on. -/
  | here {p : Program} {w : World} {returned : List (List Comeback)} :
      Reaches limit p w returned w.scopes returned
  | perform {action : Action} {next : action.Reply → Program} {w : World} {scopes : List Scope}
      {returned returned' : List (List Comeback)} :
      Reaches limit (next (w.perform action).1) (w.perform action).2 returned scopes returned' →
      Reaches limit (.perform action next) w returned scopes returned'
  /-- A nested run is over, and the program goes on. -/
  | after {flow : Flow} {body : Body} {request : RunRequest} {next : RunReply → Program}
      {w left : World} {reply : RunReply} {scopes : List Scope}
      {returned returned' : List (List Comeback)} :
      w.runFlow limit (body.invoke limit) flow request = some (reply, left) →
      Reaches limit (next reply) left
        (addComebacks (w.comeback? limit (body.invoke limit) flow request).toList returned)
        scopes returned' →
      Reaches limit (.runFlow flow body request next) w returned scopes returned'
  /-- A nested run is under way, and its body is not at work. -/
  | between {flow : Flow} {body : Body} {request : RunRequest} {next : RunReply → Program}
      {w w' : World} {vs : List Visit} {e : Engine} {scope : Scope}
      {returned : List (List Comeback)} :
      w.Conducts limit (body.invoke limit) flow request vs e w' → e.scope = some scope →
      Reaches limit (.runFlow flow body request next) w returned (scope :: w'.scopes)
        (vs.flatMap (body.comebacks limit) :: returned)
  /-- A nested run is under way, and its body is at work in the invocation `v`. -/
  | within {flow : Flow} {body : Body} {request : RunRequest} {next : RunReply → Program}
      {w : World} {earlier later : List Visit} {v : Visit} {scopes : List Scope}
      {returned returned' : List (List Comeback)} :
      w.visits limit (body.invoke limit) flow request = earlier ++ v :: later →
      Reaches limit (body v.invoked v.parameters) v.inside
        (earlier.flatMap (body.comebacks limit) :: returned) scopes returned' →
      Reaches limit (.runFlow flow body request next) w returned scopes returned'

theorem Program.Reaches.listed {p : Program} {limit : Nat} {w : World} {scopes : List Scope}
    {returned returned' : List (List Comeback)} (h : p.Reaches limit w returned scopes returned')
    (hw : Listed w.children returned) : Listed (scopes.map (·.children)) returned' := by
  induction h with
  | here => exact hw
  | @perform action _ w _ _ _ _ ih =>
    rw [← w.children_perform action] at hw
    exact ih hw
  | @after _ body _ _ _ _ _ _ _ _ hrun _ ih =>
    exact ih (World.listed_runFlow (body.keepsFrame_invoke limit) (body.tellsComebacks limit _) hw
      hrun)
  | @between _ body _ _ _ _ _ _ _ _ hconducts hs =>
    obtain ⟨⟨scope, hs', htop⟩, hw'⟩ := hconducts.records (body.tellsComebacks limit _) hw
    cases hs.symm.trans hs'
    exact .cons htop hw'
  | @within _ body _ _ _ _ _ _ _ _ _ hvisits _ ih =>
    obtain ⟨e, w', scope, hconducts, hs, rfl⟩ := World.conducts_of_visits hvisits
    obtain ⟨⟨scope, hs', htop⟩, hw'⟩ := hconducts.records (body.tellsComebacks limit _) hw
    cases hs.symm.trans hs'
    exact ih (.cons htop hw')

namespace World

variable {w : World} {limit : Nat} {body : Body} {flow : Flow} {request : RunRequest}
  {scopes : List Scope}

/-- The points that come up when a request outside of any run is carried out. -/
def Reaches (w : World) (limit : Nat) (body : Body) (flow : Flow) (request : RunRequest)
    (scopes : List Scope) (returned : List (List Comeback)) : Prop :=
  (Program.runFlow flow body request fun _ => .done (.ok .null)).Reaches limit w [] scopes returned

/-- **What a run knows of the runs nested in it.** -/
theorem listed_of_reaches (hs : w.scopes = [])
    (h : w.Reaches limit body flow request scopes returned) :
    List.Forall₂ (List.Forall₂ fun s c => c.Leaves s) (scopes.map (·.children)) returned := by
  refine Program.Reaches.listed h ?_
  rw [children, hs]
  exact .nil

/-- A body that runs a flow in its own run, and then tells if all runs nested in it are over. -/
def attentive : Body := fun _ _ =>
  .runFlow { name := "child" } (fun _ _ => .done (.ok .null)) {} fun _ =>
    .perform .look fun
      | .error failure => .done (.error failure)
      | .ok view => .done (.ok (.bool (view.children.all State.isFinal)))

/-- A request whose orchestrator has the nested run stop before its first attempt. -/
def stopping : RunRequest :=
  { options := { client := some (.inMemory { answers := [none, some (.ok (.abort "stop"))] }) } }

/-- Where the body looks, the nested run has come back. -/
theorem exists_reaches_attentive : ∃ scope c s,
    ({} : World).Reaches 3 attentive { name := "outer" } stopping [scope] [[c]] ∧
    scope.children = [s] ∧ s.type = .pending :=
  ⟨_, _, _, .within (show _ = [] ++ _ :: [] from rfl) (.after rfl .here), rfl, rfl⟩

theorem listed_of_reaches_attentive : ∃ scope c s,
    ({} : World).Reaches 3 attentive { name := "outer" } stopping [scope] [[c]] ∧
    scope.children = [s] ∧ s.type = .pending ∧ c.Leaves s ∧ c.IsCutShort := by
  obtain ⟨scope, c, s, hreaches, hchildren, htype⟩ := exists_reaches_attentive
  have hlisted := listed_of_reaches rfl hreaches
  simp only [List.map_cons, List.map_nil, hchildren, List.forall₂_cons, List.Forall₂.nil,
    and_true] at hlisted
  have hfinal : s.isFinal = false := by simp [State.isFinal, htype, StateType.isFinal]
  exact ⟨scope, c, s, hreaches, hchildren, htype, hlisted, hlisted.isFinal.1 hfinal⟩

/-- The run that was nested is in the list, and it is not over. -/
theorem exists_reaches_unfinished : ¬ ∀ scopes returned,
    ({} : World).Reaches 3 attentive { name := "outer" } stopping scopes returned →
    ∀ scope ∈ scopes, ∀ s ∈ scope.children, s.isFinal := by
  intro h
  obtain ⟨scope, c, s, hreaches, hchildren, htype⟩ := exists_reaches_attentive
  have hfinal := h _ _ hreaches scope (List.mem_singleton_self _) s (by simp [hchildren])
  simp [State.isFinal, htype, StateType.isFinal] at hfinal

end World

end RunEngine
