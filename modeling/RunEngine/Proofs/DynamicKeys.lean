import RunEngine.Proofs.Ledgers

/-!
# Keys of nested tasks

The scope of a run goes with its counters from one attempt to the next. A body asks for keys itself,
and each run that is nested in its own takes one. `Program.keyCalls` are all these calls of a body,
read off the program as it is run, whether or not the runs nested in it ever come back.

Nothing else touches the counters of a scope: what an engine does spares them, and a nested body
works in a scope of its own. So a body leaves the counters as its calls say (`Program.shows_run`),
and the next attempt finds them like that (`Engine.shows_driven`).

The main result is **`keyCalls_in_turn`**: as long as there are fewer calls for a task key than a
counter can hold, the keys are the decimal numbers from 0 on, and no two tasks that a run registers
have the same task key and the same key.
-/

namespace RunEngine

variable {id : Uuid} {asked : List String}

namespace Engine

open World

variable {e e' : Engine} {w w' : World} {limit : Nat}

/-! ## Driving -/

variable {body : Invoke} {f : Visit → List KeyCall} {g : Visit → List Registration}
  {vs : List Visit} {depth : Nat}

/-- What is registered while a run is driven is registered by its body. -/
theorem registers_driven (hb : body.KeepsFrame)
    (hg : ∀ v ∈ vs, ∀ outcome inside, v.run body = some (outcome, inside) →
      v.inside.Registers depth (g v) inside)
    (h : Driven body e w vs e' w') : w.Registers depth (vs.flatMap g) w' := by
  induction h with
  | nil => exact .refl w depth
  | propose _ hset ih => exact (ih hg).before ((spares_setState hset).registers depth)
  | sleep duration _ ih => exact (ih hg).before ((World.spares_sleep _ duration).registers depth)
  | @invoke _ e₁ _ w₁ _ scope outcome _ hs hinvoke ih =>
    obtain ⟨hearlier, hlast⟩ := List.forall_mem_append.1 hg
    rw [List.flatMap_append, List.flatMap_singleton]
    refine (ih hearlier).trans ?_
    have hlength := (passage_invoke hb hinvoke).depth
    obtain ⟨inside, hrun, rfl, rfl⟩ := exists_run_of_invoke hs hinvoke
    obtain ⟨es, he, hm⟩ := (hlast _ (List.mem_singleton_self _) _ _ hrun).events
    refine ⟨hlength, (w₁.scopes.length, .invoke e₁.parameters) :: es ++
      [(inside.scopes.tail.length, .returned outcome)], ?_, ?_⟩
    · simp [World.record, he, visit, enter]
    · rw [List.filterMap_append, List.filterMap_cons_none (Event.registrationAt_of_eq_none rfl),
        List.filterMap_cons_none (Event.registrationAt_of_eq_none rfl), hm]
      simp

/-- The ledger of an engine's own scope. -/
def Shows (e : Engine) (id : Uuid) (asked : List String) : Prop :=
  ∃ scope, e.scope = some scope ∧ scope.ledger.Shows id asked

/-- `f` tells the calls of the body when it is invoked. -/
def TellsKeys (body : Invoke) (f : Visit → List KeyCall) (vs : List Visit) : Prop :=
  ∀ v ∈ vs, ∀ id asked outcome inside, v.inside.Shows id asked →
    v.run body = some (outcome, inside) → inside.Shows id (asked ++ (f v).map (·.taskKey))

theorem Shows.visit {scope : Scope} (h : e.Shows id asked) (hs : e.scope = some scope)
    (w : World) : (e.visit scope w).inside.Shows id asked := by
  obtain ⟨_, hs', hshows⟩ := h
  cases hs.symm.trans hs'
  exact ⟨_, rfl, hshows⟩

/-- **The counters of a run go from one attempt to the next.** -/
theorem shows_driven (hf : TellsKeys body f vs) (he : e.Shows id asked)
    (h : Driven body e w vs e' w') : e'.Shows id (asked ++ (vs.flatMap f).map (·.taskKey)) := by
  induction h with
  | nil => simpa using he
  | propose _ hset ih =>
    obtain ⟨scope, hs, hshows⟩ := ih hf
    have hledger := map_scope_setState (f := Scope.ledger) hset fun _ _ => rfl
    rw [hs, Option.map_some, Option.map_eq_some_iff] at hledger
    obtain ⟨scope', hs', hl⟩ := hledger
    exact ⟨scope', hs', hl ▸ hshows⟩
  | sleep _ _ ih => exact ih hf
  | @invoke _ e₁ _ w₁ _ scope _ _ hs hinvoke ih =>
    obtain ⟨hearlier, hlast⟩ := List.forall_mem_append.1 hf
    have hvisit := (ih hearlier).visit hs w₁
    obtain ⟨inside, hrun, rfl, rfl⟩ := exists_run_of_invoke hs hinvoke
    obtain ⟨l, hl, hshows⟩ := hlast _ (List.mem_singleton_self _) _ _ _ _ hvisit hrun
    rw [World.ledgers, List.head?_map, Option.mem_def, Option.map_eq_some_iff] at hl
    obtain ⟨scope', hs', rfl⟩ := hl
    rw [List.flatMap_append, List.flatMap_singleton, List.map_append, ← List.append_assoc]
    exact ⟨scope', hs', hshows⟩

end Engine

/-! ## Requests -/

namespace World

open Engine

variable {w entered left : World} {limit depth : Nat} {flow : Flow} {request : RunRequest}
  {body : Invoke} {f : Visit → List KeyCall} {g : Visit → List Registration} {e : Engine}
  {vs : List Visit}

theorem spares_board {client : Client} {entry : Entry} {outcome : Except ClientError Unit}
    (h : { w with client }.board entry = (outcome, entered)) : w.Spares entered := by
  have hspares := (quiet_board { w with client } entry).spares
    (congrArg (List.map _) (undisturbed_board rfl).scopes)
  rw [h] at hspares
  obtain ⟨⟨own, hadds, hnone⟩, hl⟩ := hspares
  exact ⟨⟨own, ⟨hadds.depth, hadds.events⟩, hnone⟩, hl⟩

theorem spares_alight (w : World) (request : RunRequest) (left : World) :
    left.Spares (w.alight request left) := by
  have hscopes := (undisturbed_alight w request left).scopes
  exact ⟨⟨[], adds_alight w left request, rfl⟩, congrArg (List.map _) hscopes⟩

/-- The world once the run of a request has its record, or was refused one. -/
def recorded (w : World) (flow : Flow) (request : RunRequest) : World :=
  match w.clientFor request.options with
  | .error _ => w
  | .ok client =>
    match { w with client }.board request.entry with
    | (.error _, left) => left
    | (.ok (), entered) => (engineFor flow request).recorded entered

theorem enlists_recorded (w : World) (flow : Flow) (request : RunRequest) :
    ∃ made, w.Enlists flow made (w.recorded flow request) := by
  simp only [recorded]
  split
  · exact ⟨[], (Spares.refl w).enlists_nil⟩
  · split <;> rename_i hboard
    · exact ⟨[], (spares_board hboard).enlists_nil⟩
    · rename_i entered
      obtain ⟨made, h⟩ := Engine.enlists_recorded (engineFor flow request) entered
      exact ⟨made, (spares_board hboard).enlists h⟩

/-- Between two worlds, engines at that depth registered `made`, and all ledgers stayed as they
were. -/
def Keeps (w : World) (depth : Nat) (made : List Registration) (w' : World) : Prop :=
  w.Registers depth made w' ∧ w'.ledgers = w.ledgers

theorem keeps_execute (hb : body.KeepsFrame)
    (hg : ∀ v ∈ e.allVisits limit body request.options w, ∀ outcome inside,
      v.run body = some (outcome, inside) → v.inside.Registers depth (g v) inside)
    (hc : e.connected = false) {outcome : Except EngineError RunOutput}
    (h : e.execute limit body request.options w = some (outcome, left)) :
    (e.recorded w).Keeps depth ((e.allVisits limit body request.options w).flatMap g) left := by
  simp only [execute] at h
  simp only [allVisits] at hg ⊢
  split at h
  · cases h
  · rename_i hs
    cases h
    simp only [hs]
    have hspares := spares_start hc hs
    exact ⟨hspares.registers depth, hspares.ledgers⟩
  · rename_i e₁ started hs
    simp only [hs] at hg ⊢
    have hspares := spares_start hc hs
    split at h
    · rename_i hscope
      cases h
      rw [if_pos hscope]
      have hall := hspares.trans (spares_finish e₁ started)
      exact ⟨hall.registers depth, hall.ledgers⟩
    · rename_i hscope
      rw [if_neg hscope] at hg ⊢
      split at h
      · cases h
      · rename_i e₂ driven hd
        cases h
        have hdriven := driven_drive hd
        have hfinish := spares_finish e₂ driven
        refine ⟨((hspares.registers depth).trans (registers_driven hb hg hdriven)).before
          (hfinish.registers depth), ?_⟩
        rw [hfinish.ledgers, ledgers, scopes_driven hb hdriven, ← hspares.ledgers, ledgers]

/-- **A run that has its record takes no more keys of the scopes around it.** What is registered
then is registered by its body. -/
theorem keeps_runFlow (hb : body.KeepsFrame)
    (hg : ∀ v ∈ w.visits limit body flow request, ∀ outcome inside,
      v.run body = some (outcome, inside) → v.inside.Registers depth (g v) inside)
    {reply : RunReply} (h : w.runFlow limit body flow request = some (reply, left)) :
    (w.recorded flow request).Keeps depth ((w.visits limit body flow request).flatMap g) left := by
  cases hc : w.clientFor request.options with
  | error error =>
    simp only [runFlow, hc] at h
    cases h
    simp only [recorded, visits, hc]
    exact ⟨.refl .., rfl⟩
  | ok client =>
    cases hboard : { w with client }.board request.entry with
    | mk answer entered =>
      cases answer with
      | error error =>
        simp only [runFlow, hc, hboard] at h
        cases h
        have hspares := spares_alight w request entered
        simp only [visits, recorded, hc, hboard]
        exact ⟨hspares.registers depth, hspares.ledgers⟩
      | ok =>
        simp only [runFlow, hc, hboard] at h
        simp only [visits, recorded, hc, hboard] at hg ⊢
        split at h
        · cases h
        · rename_i outcome left hexecute
          cases h
          obtain ⟨hregisters, hledgers⟩ := keeps_execute hb hg rfl hexecute
          have hspares := spares_alight w request left
          exact ⟨hregisters.before (hspares.registers depth), hspares.ledgers.trans hledgers⟩

/-! ### Invocations -/

theorem Launches.unique {entered' : World} {e' : Engine} {started started' : World}
    (h : w.Launches limit flow request entered e started)
    (h' : w.Launches limit flow request entered' e' started') : e = e' ∧ started = started' := by
  obtain ⟨client, hc, hboard⟩ := h.boarded
  obtain ⟨client', hc', hboard'⟩ := h'.boarded
  cases hc.symm.trans hc'
  cases hboard.symm.trans hboard'
  cases h.start.symm.trans h'.start
  exact ⟨rfl, rfl⟩

theorem Launches.spares {started : World} (h : w.Launches limit flow request entered e started) :
    (w.recorded flow request).Spares started ∧ ∃ id, e.Shows id [] := by
  obtain ⟨client, hc, hboard⟩ := h.boarded
  obtain ⟨scope, hs⟩ := h.exists_scope
  refine ⟨?_, _, scope, hs, Ledger.shows_of_empty (isNew_start rfl h.start scope hs).dynamicKeys⟩
  simpa only [recorded, hc, hboard] using spares_start rfl h.start

theorem length_of_visits (hb : body.KeepsFrame) {v : Visit}
    (hv : v ∈ w.visits limit body flow request) :
    v.inside.scopes.length = w.scopes.length + 1 := by
  obtain ⟨earlier, later, hsplit⟩ := List.append_of_mem hv
  obtain ⟨e, w', scope, ⟨_, _, started, hlaunch, hdriven⟩, hs, rfl⟩ := conducts_of_visits hsplit
  obtain ⟨made, henlists⟩ := w.enlists_recorded flow request
  have hlength : w'.scopes.length = w.scopes.length := by
    rw [scopes_driven hb hdriven, (hlaunch.spares.1.registers 0).length,
      (henlists.registers 0).length]
  exact congrArg (· + 1) hlength

/-- **Every attempt of a run finds the counters as the attempts before it left them.** -/
theorem shows_of_visits (hf : ∀ vs, TellsKeys body f vs) : ∃ id, ∀ earlier v later,
    w.visits limit body flow request = earlier ++ v :: later →
      v.inside.Shows id ((earlier.flatMap f).map (·.taskKey)) := by
  cases hvisits : w.visits limit body flow request with
  | nil => exact ⟨default, fun _ _ _ h => by simp at h⟩
  | cons first rest =>
    rw [← List.nil_append (first :: rest)] at hvisits
    obtain ⟨_, _, _, ⟨_, e₁, _, hlaunch, -⟩, -⟩ := conducts_of_visits hvisits
    obtain ⟨-, id, hshows⟩ := hlaunch.spares
    refine ⟨id, fun earlier v later h => ?_⟩
    obtain ⟨e, w', scope, ⟨_, e₁', _, hlaunch', hdriven⟩, hs, rfl⟩ :=
      conducts_of_visits (hvisits.trans h)
    obtain ⟨rfl, rfl⟩ := hlaunch.unique hlaunch'
    exact (shows_driven (hf earlier) hshows hdriven).visit hs w'

/-- What is registered in the body of a nested run is not registered at the depth of that run. -/
theorem keeps_own (hb : body.KeepsFrame) {reply : RunReply}
    (h : w.runFlow limit body flow request = some (reply, left)) :
    (w.recorded flow request).Keeps w.scopes.length [] left := by
  have hdeeper : ∀ v ∈ w.visits limit body flow request, ∀ outcome inside,
      v.run body = some (outcome, inside) → v.inside.Registers w.scopes.length [] inside :=
    fun v hv outcome inside hrun => (hb.leads hrun).registers (by
      rw [length_of_visits hb hv]
      exact Nat.lt_succ_self _)
  have hkeeps := keeps_runFlow (g := fun _ => []) hb hdeeper h
  rwa [List.flatMap_eq_nil_iff.2 fun _ _ => rfl] at hkeeps

end World

/-! ## Programs -/

/-- The call that an action is, given its reply. -/
def Action.keyCall? : (action : Action) → action.Reply → Option KeyCall
  | .dynamicKey taskKey, .ok key => some (.asked taskKey key)
  | _, _ => none

namespace Program

/-- The calls for keys of the scope around a body that goes on like this, in their order. -/
def keyCalls (limit : Nat) : Program → World → List KeyCall
  | .done _, _ => []
  | .perform action next, w =>
    (action.keyCall? (w.perform action).1).toList ++
      (next (w.perform action).1).keyCalls limit (w.perform action).2
  | .runFlow flow body request next, w =>
    let invoke : Invoke := fun n parameters inside => (body n parameters).run limit inside
    (w.registrations (w.recorded flow request) w.scopes.length).map (.registered flow) ++
      match w.runFlow limit invoke flow request with
      | none => []
      | some (reply, left) => (next reply).keyCalls limit left

end Program

/-- The calls of a body in one invocation. -/
def Body.keyCalls (limit : Nat) (body : Body) (v : Visit) : List KeyCall :=
  (body v.invoked v.parameters).keyCalls limit v.inside

namespace World

variable {w left : World} {limit : Nat} {body : Body} {flow : Flow} {request : RunRequest}

theorem shows_perform (action : Action) (h : w.Shows id asked) :
    InTurn id asked (action.keyCall? (w.perform action).1).toList ∧
      (w.perform action).2.Shows id
        (asked ++ (action.keyCall? (w.perform action).1).toList.map (·.taskKey)) := by
  obtain ⟨l, hl, hshows⟩ := h
  cases hs : w.scopes with
  | nil => simp [ledgers, hs] at hl
  | cons scope rest =>
    rw [ledgers, hs, List.map_cons, List.head?_cons, Option.mem_some_iff] at hl
    subst hl
    cases action with
    | dynamicKey k =>
      obtain ⟨hnumber, hnext⟩ := hshows.next k
      simp only [perform, inScope, hs]
      exact ⟨⟨hnumber, trivial, trivial⟩, _, rfl, hnext⟩
    | note | sleep | occupy =>
      refine ⟨trivial, scope.ledger, ?_, by simpa [Action.keyCall?] using hshows⟩
      simp [perform, ledgers, hs, addNote, World.sleep]
    | print =>
      simp only [perform, inScope, hs]
      refine ⟨trivial, scope.ledger, ?_, by simpa [Action.keyCall?] using hshows⟩
      split <;> simp [ledgers, hs, addLog, World.print]
    | log | look | snapshot | spawn | propose =>
      simp only [perform, inScope, hs]
      refine ⟨trivial, scope.ledger, ?_, by simpa [Action.keyCall?] using hshows⟩
      simp [ledgers, hs, addLog, addNote, withScope, Scope.ledger]

/-- What a body asks for itself registers nothing. -/
theorem registrations_perform (w : World) (action : Action) :
    (action.keyCall? (w.perform action).1).toList.filterMap KeyCall.registration? = [] := by
  cases hcall : action.keyCall? (w.perform action).1 with
  | none => rfl
  | some call =>
    cases action <;> simp only [Action.keyCall?] at hcall <;> try cases hcall
    split at hcall <;> cases hcall
    rfl

end World

namespace Program

variable {p : Program} {limit : Nat} {w w' : World} {outcome : Except Failure Json}

/-- The calls of a body tell what it registers. -/
theorem registers_run (h : p.run limit w = some (outcome, w')) :
    w.Registers w.scopes.length ((p.keyCalls limit w).filterMap KeyCall.registration?) w' := by
  induction p generalizing w w' outcome with
  | done =>
    cases h
    exact .refl ..
  | perform action next ih =>
    have hperform := (w.passage_perform action).registers
    have hnext := ih _ h
    rw [hperform.length] at hnext
    rw [keyCalls, List.filterMap_append, w.registrations_perform action]
    exact hperform.trans hnext
  | runFlow flow body request next ihBody ihNext =>
    simp only [run] at h
    split at h
    · cases h
    · rename_i reply left hrun
      obtain ⟨made, henlists⟩ := w.enlists_recorded flow request
      obtain ⟨hkeeps, -⟩ := World.keeps_own (Body.keepsFrame_invoke limit body) hrun
      have hmade := henlists.registers w.scopes.length
      rw [if_pos rfl] at hmade
      have hleft := hmade.before hkeeps
      have hnext := ihNext reply h
      rw [hleft.length] at hnext
      simp only [keyCalls, hrun, hmade.registrations, List.filterMap_append]
      rw [List.filterMap_map, show KeyCall.registration? ∘ KeyCall.registered flow = some from rfl,
        List.filterMap_some]
      exact hleft.trans hnext

/-- **The calls of a body are in turn**, and it leaves the counters as they say. -/
theorem shows_run (hw : w.Shows id asked) : InTurn id asked (p.keyCalls limit w) ∧
    ∀ outcome w', p.run limit w = some (outcome, w') →
      w'.Shows id (asked ++ (p.keyCalls limit w).map (·.taskKey)) := by
  induction p generalizing w asked with
  | done =>
    refine ⟨trivial, fun _ _ h => ?_⟩
    cases h
    simpa [keyCalls] using hw
  | perform action next ih =>
    obtain ⟨hturn, hshows⟩ := World.shows_perform action hw
    obtain ⟨hnext, hrest⟩ := ih _ hshows
    rw [keyCalls, inTurn_append]
    refine ⟨⟨hturn, hnext⟩, fun outcome w' h => ?_⟩
    rw [List.map_append, ← List.append_assoc]
    exact hrest outcome w' h
  | runFlow flow body request next ihBody ihNext =>
    obtain ⟨made, henlists⟩ := w.enlists_recorded flow request
    have hmade := henlists.registers w.scopes.length
    rw [if_pos rfl] at hmade
    obtain ⟨hturn, hshows⟩ := henlists.shows hw
    simp only [keyCalls, hmade.registrations]
    cases hrun : w.runFlow limit (fun n parameters inside => (body n parameters).run limit inside)
      flow request with
    | none =>
      refine ⟨by rwa [List.append_nil], fun outcome w' h => ?_⟩
      simp only [run, hrun] at h
      cases h
    | some step =>
      obtain ⟨reply, left⟩ := step
      obtain ⟨-, hledgers⟩ := World.keeps_own (Body.keepsFrame_invoke limit body) hrun
      have hleft :
          left.Shows id (asked ++ (made.map (KeyCall.registered flow)).map (·.taskKey)) := by
        rwa [World.Shows, hledgers]
      obtain ⟨hnext, hrest⟩ := ihNext reply hleft
      refine ⟨inTurn_append.2 ⟨hturn, hnext⟩, fun outcome w' h => ?_⟩
      simp only [run, hrun] at h
      rw [List.map_append, ← List.append_assoc]
      exact hrest outcome w' h

end Program

theorem Body.tellsKeys (limit : Nat) (body : Body) (vs : List Visit) :
    Engine.TellsKeys (body.invoke limit) (body.keyCalls limit) vs :=
  fun _ _ _ _ outcome inside hw h => (Program.shows_run hw).2 outcome inside h

namespace World

variable {w : World} {limit : Nat} {body : Body} {flow : Flow} {request : RunRequest}

/-- The calls for keys of a run in all its attempts, while its request is carried out. -/
def keyCalls (limit : Nat) (body : Body) (flow : Flow) (request : RunRequest) (w : World) :
    List KeyCall :=
  (w.visits limit (body.invoke limit) flow request).flatMap (body.keyCalls limit)

theorem exists_inTurn (w : World) (limit : Nat) (body : Body) (flow : Flow)
    (request : RunRequest) : ∃ id, InTurn id [] (w.keyCalls limit body flow request) ∧
      ∀ v ∈ w.visits limit (body.invoke limit) flow request,
        v.inside.scopes.head?.map (·.runId) = some id := by
  obtain ⟨id, hshows⟩ :=
    @shows_of_visits w limit flow request (body.invoke limit) _ (body.tellsKeys limit)
  refine ⟨id, inTurn_flatMap fun earlier v later h => ?_, fun v hv => ?_⟩
  · exact (Program.shows_run (hshows earlier v later h)).1
  · obtain ⟨earlier, later, h⟩ := List.append_of_mem hv
    obtain ⟨l, hl, hrun, -⟩ := hshows earlier v later h
    rw [ledgers, List.head?_map, Option.mem_def, Option.map_eq_some_iff] at hl
    obtain ⟨scope, hs, rfl⟩ := hl
    rw [hs, ← hrun]
    rfl

/-- What a run registers as its tasks is in the journal, one depth below the run. -/
theorem registrations_keyCalls {reply : RunReply} {left : World}
    (h : w.runFlow limit (body.invoke limit) flow request = some (reply, left)) :
    w.registrations left (w.scopes.length + 1) =
      (w.keyCalls limit body flow request).filterMap KeyCall.registration? := by
  have hb := body.keepsFrame_invoke limit
  have hbody : ∀ v ∈ w.visits limit (body.invoke limit) flow request, ∀ outcome inside,
      v.run (body.invoke limit) = some (outcome, inside) →
      v.inside.Registers (w.scopes.length + 1)
        ((body.keyCalls limit v).filterMap KeyCall.registration?) inside := by
    intro v hv outcome inside hrun
    rw [← length_of_visits hb hv]
    exact Program.registers_run hrun
  obtain ⟨made, henlists⟩ := w.enlists_recorded flow request
  have hstart := henlists.registers (w.scopes.length + 1)
  rw [if_neg (Nat.ne_of_lt (Nat.lt_succ_self _))] at hstart
  rw [(hstart.trans (keeps_runFlow hb hbody h).1).registrations, List.nil_append, keyCalls,
    List.filterMap_flatMap]

/-- **Keys are the decimal numbers from 0 on, for each task key by itself.** A scope that counts
from the beginning gives them in whatever order it is asked. In a run, the calls of all attempts
count, and those that were taken for tasks that could not be created. Each task is registered in the
run, under a name made from the nested flow's and the key, and no two have the same task key and the
same key. -/
theorem keyCalls_in_turn
    (hcount : ∀ k, (w.keyCalls limit body flow request).countP (·.taskKey = k) < 2 ^ 32) :
    (∀ (s : Scope) (asked : List String) (k : String), s.dynamicKeys = ∅ →
      asked.count k < 2 ^ 32 →
      ((s.askAll asked).nextDynamicKey k).1 = toString (asked.count k)) ∧
    (∀ earlier call later, w.keyCalls limit body flow request = earlier ++ call :: later →
      call.key = toString (earlier.countP (·.taskKey = call.taskKey))) ∧
    (((w.keyCalls limit body flow request).filterMap KeyCall.registration?).map
      fun r => (r.1.taskKey, r.1.dynamicKey)).Nodup ∧
    (∃ id, (∀ v ∈ w.visits limit (body.invoke limit) flow request,
        v.inside.scopes.head?.map (·.runId) = some id) ∧
      ∀ call ∈ w.keyCalls limit body flow request, call.IsFor id) ∧
    ∀ reply left, w.runFlow limit (body.invoke limit) flow request = some (reply, left) →
      w.registrations left (w.scopes.length + 1) =
        (w.keyCalls limit body flow request).filterMap KeyCall.registration? := by
  obtain ⟨id, hturn, hrun⟩ := exists_inTurn w limit body flow request
  refine ⟨fun s asked k hs hk => ?_, fun earlier call later h => ?_, hturn.nodup hcount,
    ⟨id, hrun, fun call hcall => hturn.isFor hcall⟩, fun reply left => registrations_keyCalls⟩
  · have hshows := (Ledger.shows_of_empty hs).askAll asked
    rw [(hshows.next k).1, List.nil_append, Nat.mod_eq_of_lt hk]
  · have hkey := (h ▸ hturn).key
    have hle : earlier.countP (·.taskKey = call.taskKey) ≤
        (w.keyCalls limit body flow request).countP (·.taskKey = call.taskKey) := by
      rw [h, List.countP_append]
      exact Nat.le_add_right ..
    rw [hkey, Nat.mod_eq_of_lt (Nat.lt_of_le_of_lt hle (hcount _))]

/-- A body that asks for a key and runs the flow with that task key, and fails at first. -/
def repeating : Body := fun n _ =>
  .perform (.dynamicKey "child") fun _ =>
    .runFlow { name := "child" } (fun _ _ => .done (.ok .null)) {} fun _ =>
      .done (if n = 0 then .error { fault := .noContext } else .ok .null)

/-- A request whose orchestrator does not create the first task. -/
def losing : RunRequest :=
  { options :=
      { client := some (.inMemory { taskCreations := [some (.error (.decode "lost"))] }) } }

/-- In two attempts there are four calls for the task key, one of them in vain. -/
theorem keyCalls_in_turn_repeating :
    let calls := ({} : World).keyCalls 9 repeating { name := "outer", retries := 1 } losing
    (∀ k, calls.countP (·.taskKey = k) < 2 ^ 32) ∧
      calls.map (fun call => (call.taskKey, call.key)) =
        [("child", "0"), ("child", "1"), ("child", "2"), ("child", "3")] ∧
      ((calls.filterMap KeyCall.registration?).map
        fun r => (r.1.taskKey, r.1.dynamicKey)).Nodup := by
  intro calls
  have hcalls : calls.map (fun call => (call.taskKey, call.key)) =
      [("child", "0"), ("child", "1"), ("child", "2"), ("child", "3")] := by decide +kernel
  have hlength : calls.length = 4 := by simpa using congrArg List.length hcalls
  have hcount (k : String) : calls.countP (·.taskKey = k) < 2 ^ 32 := by
    have hle : calls.countP (·.taskKey = k) ≤ calls.length := List.countP_le_length
    omega
  exact ⟨hcount, hcalls, (keyCalls_in_turn hcount).2.2.1⟩

end World

end RunEngine
