import RunEngine.Proofs.Journal
import RunEngine.Proofs.Visits

/-!
# The calls of a run

The engine of a run talks to its client in a fixed order, the `Protocol`: it connects; it registers
a task if the run is nested and creates a record, unless it was given one; it proposes states for
that one run; and it closes the client. Only a client that did not connect is not closed. That the
last step is never left out, whatever failed before it, is what makes clients that are shared by
many runs come out even.

A body may run other flows, and their bodies may again. The journal is one list for all of them,
each call with its depth. `Nesting` tells that it is made up in the right way: what stands between
two calls of an engine are complete runs one scope deeper, each a `Protocol` that begins and ends
with a call of its own engine, with runs nested in it in the same way.

Engines write what they do themselves (`World.Writes`), and the runs in a body are added when the
body is invoked (`Engine.makes_enter`). The main result, **`runFlow_protocol`**, is an induction on
programs (`Program.exists_makes`): a nested run has a smaller program for its body.

The journal is what engines write. What the client of a run hears in the meantime is what it is
really made to do (`Client.Handles`), and `Heard` says how the two belong together: it hears every
call of the engine, and those of nested runs unless these have clients of their own. `World.Carries`
takes the journal and the client along together, from one moment to a later one. So a client that
keeps a record has as many closes as connections on it.
-/

namespace RunEngine

/-! ## The protocol -/

/-- The calls that the engine of one run makes, in order. -/
inductive Protocol (nested : Bool) (given : Option FlowRun) : List Event → Prop
  | refused {error : ClientError} : Protocol nested given [.connect (.error error)]
  | unrecorded {recording : List Event} {error : EngineError} :
      Engine.Recording nested given recording (.error error) →
      Protocol nested given (.connect (.ok ()) :: recording ++ [.close])
  | recorded {recording proposals : List Event} {run : FlowRun} :
      Engine.Recording nested given recording (.ok run) →
      (∀ e ∈ proposals, e.ProposesFor run.id) →
      Protocol nested given (.connect (.ok ()) :: (recording ++ proposals) ++ [.close])

/-- The calls `calls`, each with its depth, are the calls `own` that an engine at depth `depth`
made, and between them complete runs one scope deeper. The calls of each run that is nested in it,
at any depth, are one of the lists `runs`. -/
inductive Nesting : (depth : Nat) → (own : List Event) → (calls : List (Nat × Event)) →
    (runs : List (List Event)) → Prop
  | nil {depth : Nat} : Nesting depth [] [] []
  | call {depth : Nat} {own : List Event} {calls : List (Nat × Event)} {runs : List (List Event)}
      (event : Event) : Nesting depth own calls runs →
      Nesting depth (event :: own) ((depth, event) :: calls) runs
  | run {depth : Nat} {given : Option FlowRun} {own inner : List Event}
      {calls within : List (Nat × Event)} {runs deeper : List (List Event)} :
      Nesting (depth + 1) inner within deeper → Protocol true given inner →
      within.head? = inner.head?.map (depth + 1, ·) →
      within.getLast? = inner.getLast?.map (depth + 1, ·) →
      Nesting depth own calls runs → Nesting depth own (within ++ calls) (inner :: deeper ++ runs)

/-- A complete run at depth `depth`: its engine made the calls `own`, the first and the last of all
calls `calls`, and the lists `runs` are the calls of the runs nested in it. -/
structure RunAt (depth : Nat) (nested : Bool) (given : Option FlowRun) (own : List Event)
    (calls : List (Nat × Event)) (runs : List (List Event)) : Prop where
  nesting : Nesting depth own calls runs
  protocol : Protocol nested given own
  first : calls.head? = own.head?.map (depth, ·)
  last : calls.getLast? = own.getLast?.map (depth, ·)

variable {depth : Nat} {nested : Bool} {given : Option FlowRun} {own own' : List Event}
  {made made' : List (Nat × Event)} {runs runs' : List (List Event)} {id : Uuid}

theorem Nesting.append (h : Nesting depth own made runs) (h' : Nesting depth own' made' runs') :
    Nesting depth (own ++ own') (made ++ made') (runs ++ runs') := by
  induction h with
  | nil => exact h'
  | call event _ ih => exact .call event (ih h')
  | run hinner hprotocol hfirst hlast _ _ ih =>
    rw [List.append_assoc, List.append_assoc]
    exact .run hinner hprotocol hfirst hlast (ih h')

/-- The calls of an engine that invoked no body. -/
theorem nesting_alone (depth : Nat) (own : List Event) :
    Nesting depth own (own.map (depth, ·)) [] := by
  induction own with
  | nil => exact .nil
  | cons event own ih => exact .call event ih

theorem RunAt.nesting_run (h : RunAt (depth + 1) true given own made runs) :
    Nesting depth [] made (own :: runs) := by
  simpa using Nesting.run h.nesting h.protocol h.first h.last .nil

/-! ## What the client hears -/

/-- While engines made the calls `calls`, the client of the engine at depth `depth` heard `heard`:
all calls, but not those of nested runs that have a client of their own. It may also have heard of
proposals that bodies make themselves, and of what is no call of an engine. -/
inductive Heard (depth : Nat) : List (Nat × Event) → List Event → Prop
  | nil : Heard depth [] []
  | call {d : Nat} {calls : List (Nat × Event)} {heard : List Event} (event : Event) :
      Heard depth calls heard → Heard depth ((d, event) :: calls) (event :: heard)
  | body {calls : List (Nat × Event)} {heard : List Event} (id : Uuid) (s : State)
      (answer : Except ClientError Answer) :
      Heard depth calls heard → Heard depth calls (.propose id s answer :: heard)
  | aside {calls : List (Nat × Event)} {heard : List Event} {event : Event} :
      event.isCall = false → Heard depth calls heard → Heard depth calls (event :: heard)
  | elsewhere {d : Nat} {given : Option FlowRun} {own heard : List Event}
      {within calls : List (Nat × Event)} {runs : List (List Event)} : depth < d →
      RunAt d true given own within runs → Heard depth calls heard →
      Heard depth (within ++ calls) heard

namespace Heard

variable {calls calls' : List (Nat × Event)} {heard heard' : List Event}

theorem append (h : Heard depth calls heard) (h' : Heard depth calls' heard') :
    Heard depth (calls ++ calls') (heard ++ heard') := by
  induction h with
  | nil => exact h'
  | call event _ ih => exact .call event ih
  | body id s answer _ ih => exact .body id s answer ih
  | aside hevent _ ih => exact .aside hevent ih
  | elsewhere hd hrun _ ih =>
    rw [List.append_assoc]
    exact .elsewhere hd hrun ih

/-- The engine around a run hears what that run's engine does, if it has the same client. -/
theorem around {outer : Nat} (h : Heard depth calls heard) (ho : outer ≤ depth) :
    Heard outer calls heard := by
  induction h with
  | nil => exact .nil
  | call event _ ih => exact .call event ih
  | body id s answer _ ih => exact .body id s answer ih
  | aside hevent _ ih => exact .aside hevent ih
  | elsewhere hd hrun _ ih => exact .elsewhere (Nat.lt_of_le_of_lt ho hd) hrun ih

/-- An engine that invoked no body. -/
theorem alone (depth d : Nat) (own : List Event) :
    Heard depth ((own.filter Event.isCall).map (d, ·)) own := by
  induction own with
  | nil => exact .nil
  | cons event own ih =>
    rw [List.filter_cons]
    split <;> rename_i hcall
    · exact .call event ih
    · exact .aside (by simpa using hcall) ih

end Heard

/-! ## As many closes as connects -/

theorem countP_connect_close (h : ∀ e ∈ own, e.opens = false ∧ e.closes = false) :
    (Event.connect (.ok ()) :: own ++ [Event.close]).countP Event.opens =
      (Event.connect (.ok ()) :: own ++ [Event.close]).countP Event.closes := by
  have hopens : own.countP Event.opens = 0 :=
    List.countP_eq_zero.2 fun e he => by simp [(h e he).1]
  have hcloses : own.countP Event.closes = 0 :=
    List.countP_eq_zero.2 fun e he => by simp [(h e he).2]
  rw [List.cons_append, List.countP_cons, List.countP_cons, List.countP_append,
    List.countP_append, hopens, hcloses]
  rfl

/-- Whatever happened, a client that was connected was closed. -/
theorem Protocol.countP_opens (h : Protocol nested given own) :
    own.countP Event.opens = own.countP Event.closes := by
  cases h with
  | refused => rfl
  | unrecorded hrecording => exact countP_connect_close hrecording.turns
  | recorded hrecording hproposals =>
    exact countP_connect_close
      (List.forall_mem_append.2 ⟨hrecording.turns, fun e he => (hproposals e he).turns⟩)

theorem Nesting.countP_opens (h : Nesting depth own made runs) :
    ∀ run ∈ runs, run.countP Event.opens = run.countP Event.closes := by
  induction h with
  | nil => simp
  | call _ _ ih => exact ih
  | run _ hprotocol _ _ _ ihInner ih =>
    exact List.forall_mem_append.2 ⟨List.forall_mem_cons.2 ⟨hprotocol.countP_opens, ihInner⟩, ih⟩

/-- Whichever of the runs share a client. -/
theorem RunAt.countP_opens (h : RunAt depth nested given own made runs)
    {shared : List (List Event)} (hs : shared.Sublist (own :: runs)) :
    shared.flatten.countP Event.opens = shared.flatten.countP Event.closes := by
  have hall : ∀ run ∈ own :: runs, run.countP Event.opens = run.countP Event.closes :=
    List.forall_mem_cons.2 ⟨h.protocol.countP_opens, h.nesting.countP_opens⟩
  rw [List.countP_flatten, List.countP_flatten]
  exact congrArg List.sum (List.map_congr_left fun run hrun => hall run (hs.subset hrun))

/-- The calls at all depths are those of the engine and of the runs nested in it. -/
theorem Nesting.countP (h : Nesting depth own made runs) (p : Event → Bool) :
    made.countP (fun call => p call.2) = own.countP p + runs.flatten.countP p := by
  induction h with
  | nil => rfl
  | call event _ ih =>
    simp only [List.countP_cons, ih]
    omega
  | run _ _ _ _ _ ihInner ih =>
    rw [List.countP_append, ihInner, ih, List.cons_append, List.flatten_cons, List.flatten_append,
      List.countP_append, List.countP_append]
    omega

theorem RunAt.countP_opens_calls (h : RunAt depth nested given own made runs) :
    made.countP (fun call => call.2.opens) = made.countP fun call => call.2.closes := by
  have hall := h.countP_opens (.refl (own :: runs))
  rw [List.flatten_cons, List.countP_append, List.countP_append] at hall
  rwa [h.nesting.countP, h.nesting.countP]

/-- What a client did not hear are complete runs, and they open and close as often. -/
theorem Heard.countP_opens {calls : List (Nat × Event)} {heard : List Event}
    (h : Heard depth calls heard) :
    heard.countP Event.opens + calls.countP (fun call => call.2.closes) =
      heard.countP Event.closes + calls.countP fun call => call.2.opens := by
  induction h with
  | nil => rfl
  | call event _ ih =>
    simp only [List.countP_cons]
    omega
  | body => simpa [List.countP_cons, Event.opens, Event.closes]
  | aside hevent _ ih =>
    obtain ⟨hopens, hcloses, -⟩ := Event.of_isCall_eq_false hevent
    simpa [List.countP_cons, hopens, hcloses]
  | elsewhere _ hrun _ ih =>
    have hwithin := hrun.countP_opens_calls
    rw [List.countP_append, List.countP_append]
    omega

namespace World

variable {w w' w'' : World} {a b c : Client}

/-! ## Calls of engines and of the runs nested in them -/

/-- The calls that engines made between `w` and `w'`, each with the depth of its run. -/
def calls (w w' : World) : List (Nat × Event) :=
  (w'.journal.events.drop w.journal.events.length).filter (·.2.isCall)

/-- `w'` comes after `w`. In between engines made the calls `made`, and the client of the one at
depth `d`, which was `client` at first and is `client'` now, heard them. -/
structure Carries (w : World) (d : Nat) (client : Client) (made : List (Nat × Event))
    (client' : Client) (w' : World) : Prop where
  depth : w'.scopes.length = w.scopes.length
  events : ∃ es, w'.journal.events = w.journal.events ++ es ∧ es.filter (·.2.isCall) = made
  client : ∃ heard, Heard d made heard ∧ client.Handles heard client'

theorem Carries.calls (h : w.Carries depth a made b w') : w.calls w' = made := by
  obtain ⟨es, he, hmade⟩ := h.events
  rw [World.calls, he, List.drop_left, hmade]

theorem Carries.trans (h : w.Carries depth a made b w') (h' : w'.Carries depth b made' c w'') :
    w.Carries depth a (made ++ made') c w'' where
  depth := h'.depth.trans h.depth
  events := by
    obtain ⟨es, he, rfl⟩ := h.events
    obtain ⟨es', he', rfl⟩ := h'.events
    exact ⟨es ++ es', by rw [he', he, List.append_assoc], List.filter_append ..⟩
  client := by
    obtain ⟨heard, hheard, hc⟩ := h.client
    obtain ⟨heard', hheard', hc'⟩ := h'.client
    exact ⟨heard ++ heard', hheard.append hheard', hc.trans hc'⟩

/-- Nothing more is written, and the client is put aside. -/
theorem Carries.before (h : w.Carries depth a made b w') (h' : w'.Adds [] w'') :
    w.Carries depth a made b w'' where
  depth := h'.depth.trans h.depth
  events := by
    obtain ⟨es, he, hmade⟩ := h.events
    exact ⟨es, by rw [h'.events, he, List.map_nil, List.append_nil], hmade⟩
  client := h.client

theorem Writes.carries (h : w.Writes own w') (d : Nat) :
    w.Carries d w.client ((own.filter Event.isCall).map (w.scopes.length, ·)) w'.client w' where
  depth := h.depth
  events := ⟨_, h.events, List.filter_map ..⟩
  client := ⟨own, .alone .., h.client⟩

theorem Quiet.carries (h : w.Quiet w') (d : Nat) : w.Carries d w.client [] w'.client w' := by
  obtain ⟨own, hw, hquiet⟩ := h
  have hcarries := hw.carries d
  rwa [List.filter_eq_nil_iff.2 fun e he => by simp [hquiet e he]] at hcarries

/-- `w'` comes after `w`, and in between an engine at depth `d` made the calls `own`, while the
runs nested in it made the calls `runs`. -/
def Makes (w : World) (d : Nat) (own : List Event) (runs : List (List Event)) (w' : World) : Prop :=
  ∃ made, w.Carries d w.client made w'.client w' ∧ Nesting d own made runs

theorem Makes.length (h : w.Makes depth own runs w') : w'.scopes.length = w.scopes.length := by
  obtain ⟨made, hcarries, -⟩ := h
  exact hcarries.depth

theorem Makes.trans (h : w.Makes depth own runs w') (h' : w'.Makes depth own' runs' w'') :
    w.Makes depth (own ++ own') (runs ++ runs') w'' := by
  obtain ⟨made, hcarries, hn⟩ := h
  obtain ⟨made', hcarries', hn'⟩ := h'
  exact ⟨made ++ made', hcarries.trans hcarries', hn.append hn'⟩

theorem Quiet.makes (h : w.Quiet w') (d : Nat) : w.Makes d [] [] w' := ⟨[], h.carries d, .nil⟩

theorem Writes.quiet (h : w.Writes [] w') : w.Quiet w' := ⟨[], h, List.forall_mem_nil _⟩

theorem Writes.makes (h : w.Writes own w') :
    w.Makes w.scopes.length (own.filter Event.isCall) [] w' :=
  ⟨_, h.carries _, nesting_alone ..⟩

/-- `w'` comes after `w`, and in between the engine at the depth of `w` made proposals for the run
`id`, and maybe its body ran other flows. -/
def Proposing (w : World) (id : Uuid) (w' : World) : Prop :=
  ∃ own runs, w.Makes w.scopes.length own runs w' ∧ ∀ e ∈ own, e.ProposesFor id

theorem Proposing.refl (w : World) (id : Uuid) : w.Proposing id w :=
  ⟨[], [], Quiet.makes (.refl ..) _, List.forall_mem_nil _⟩

theorem Proposing.trans (h : w.Proposing id w') (h' : w'.Proposing id w'') :
    w.Proposing id w'' := by
  obtain ⟨own, runs, hm, hown⟩ := h
  obtain ⟨own', runs', hm', hown'⟩ := h'
  rw [hm.length] at hm'
  exact ⟨_, _, hm.trans hm', List.forall_mem_append.2 ⟨hown, hown'⟩⟩

theorem WritesOnly.proposing (h : w.WritesOnly (·.ProposesFor id) w') : w.Proposing id w' := by
  obtain ⟨own, hw, hown⟩ := h
  exact ⟨_, _, hw.makes, fun e he => hown e (List.mem_filter.1 he).1⟩

theorem Quiet.proposing (h : w.Quiet w') (id : Uuid) : w.Proposing id w' :=
  ⟨[], [], h.makes _, List.forall_mem_nil _⟩

/-! ## Complete runs -/

/-- `w'` comes after `w`, and in between a run was started at the depth of `w` and came to its
end. -/
def Completes (w : World) (given : Option FlowRun) (w' : World) : Prop :=
  ∃ own made runs, w.Carries w.scopes.length w.client made w'.client w' ∧
    RunAt w.scopes.length w.nested given own made runs

/-- Before its engine connects, a run may be prepared. -/
theorem Completes.after (h : w'.Completes given w'') (hbefore : w.Quiet w') :
    w.Completes given w'' := by
  obtain ⟨own, made, runs, hcarries, hrun⟩ := h
  have hprepared := hbefore.carries w.scopes.length
  rw [hprepared.depth] at hcarries
  rw [World.nested, hprepared.depth] at hrun
  exact ⟨own, made, runs, hprepared.trans hcarries, hrun⟩

theorem Writes.completes {error : ClientError} (h : w.Writes [.connect (.error error)] w')
    (given : Option FlowRun) : w.Completes given w' :=
  ⟨_, _, _, h.carries _, nesting_alone _ [.connect (.error error)], .refused, rfl, rfl⟩

/-- A client that was connected is closed after everything else. -/
theorem Makes.completes (hprotocol : Protocol w.nested given (.connect (.ok ()) :: own ++ [.close]))
    (hconnect : w.Writes [.connect (.ok ())] w') (h : w'.Makes w'.scopes.length own runs w'') :
    w.Completes given w''.close := by
  obtain ⟨made, hcarries, hn⟩ := h
  have hdepth : w''.scopes.length = w.scopes.length := hcarries.depth.trans hconnect.depth
  rw [hconnect.depth] at hcarries hn
  have hclose := w''.writes_close.carries w.scopes.length
  rw [hdepth] at hclose
  have hnesting := (Nesting.call (.connect (.ok ())) hn).append (nesting_alone _ [.close])
  rw [List.append_nil] at hnesting
  refine ⟨_, _, runs, ((hconnect.carries _).trans hcarries).trans hclose, hnesting, hprotocol, rfl,
    ?_⟩
  exact (List.getLast?_concat ..).trans (by rw [List.getLast?_concat]; rfl)

end World

/-! ## Driving -/

/-- A body that does nothing but run other flows, as far as calls of engines are concerned. -/
structure Invoke.Nests (body : Invoke) : Prop where
  exists_makes : ∀ {n parameters w outcome w' d}, w.scopes.length = d + 1 →
    body n parameters w = some (outcome, w') → ∃ runs, w.Makes d [] runs w'

namespace Engine

open World

variable {e e' : Engine} {w w' : World} {limit : Nat} {body : Invoke}

/-- An engine that is started, and whose run is `id`. -/
structure Serves (e : Engine) (id : Uuid) : Prop where
  connected : e.connected = true
  record : e.record.map (·.id) = some id

theorem Serves.setState {s : State} {r : Except EngineError State} (he : e.Serves id)
    (h : e.setState limit w s = some (r, e', w')) : w.Proposing id w' ∧ e'.Serves id := by
  have hp := proposes_setState h
  obtain ⟨run, hr, rfl⟩ := Option.map_eq_some_iff.1 he.record
  obtain ⟨hw, hid⟩ := hp.writes hr
  exact ⟨hw.proposing, hp.connected.trans he.connected, hid⟩

/-- The runs in a body are nested in the run of its engine. -/
theorem makes_enter {scope : Scope} {runs : List (List Event)} {outcome : Except Failure Json}
    (h : (e.enter scope w).Makes w.scopes.length [] runs w') :
    w.Makes w.scopes.length [] runs
      ({ w' with scopes := w'.scopes.tail }.record (.returned outcome)) := by
  obtain ⟨made, ⟨hdepth, ⟨es, he, hmade⟩, hclient⟩, hn⟩ := h
  refine ⟨made, ⟨?_, ?_, hclient⟩, hn⟩
  · rw [World.record, List.length_tail, hdepth]
    rfl
  · -- That a body begins and ends is in the journal, but it is no call.
    refine ⟨(w.scopes.length, .invoke e.parameters) :: es ++
      [(w'.scopes.tail.length, .returned outcome)], ?_, ?_⟩
    · simp [World.record, he, enter]
    · simpa [Event.isCall, List.filter_append, List.filter_cons] using hmade

theorem Serves.invoke (hb : body.Nests) {outcome : Except Failure Json} (he : e.Serves id)
    (h : e.invoke body w = some (outcome, e', w')) : w.Proposing id w' ∧ e'.Serves id := by
  obtain ⟨scope, inside, -, hinside, rfl, rfl⟩ := exists_inside_of_invoke h
  obtain ⟨runs, hm⟩ := hb.exists_makes rfl hinside
  exact ⟨⟨[], runs, makes_enter hm, List.forall_mem_nil _⟩, he.connected, he.record⟩

/-- A run that is driven to its end is one for which proposals are made, and nothing else is
called by its engine. -/
theorem Serves.driven {vs : List Visit} (hb : body.Nests) (he : e.Serves id)
    (h : Driven body e w vs e' w') :
    w.Proposing id w' ∧ e'.Serves id := by
  induction h with
  | nil => exact ⟨.refl .., he⟩
  | propose _ hset ih =>
    obtain ⟨hp, he'⟩ := ih
    obtain ⟨hp', he''⟩ := he'.setState hset
    exact ⟨hp.trans hp', he''⟩
  | sleep duration _ ih =>
    obtain ⟨hp, he'⟩ := ih
    exact ⟨hp.trans ((writes_sleep _ duration).quiet.proposing id), he'⟩
  | invoke _ _ hinvoke ih =>
    obtain ⟨hp, he'⟩ := ih
    obtain ⟨hp', he''⟩ := he'.invoke hb hinvoke
    exact ⟨hp.trans hp', he''⟩

/-! ## Whole runs -/

theorem Recording.isCall {outcome : Except EngineError FlowRun}
    (h : Recording nested given own outcome) : own.filter Event.isCall = own := by
  cases h <;> rfl

/-- An engine that got a record, and then proposed states for it until it closed its client. -/
theorem completes_of_proposing {run : FlowRun} {w₁ w₂ w₃ : World}
    (hconnect : w.Writes [.connect (.ok ())] w₁)
    (hrecording : Recording w.nested given own (.ok run)) (hown : w₁.Writes own w₂)
    (h : w₂.Proposing run.id w₃) : w.Completes given w₃.close := by
  obtain ⟨proposals, runs, hmakes, hproposals⟩ := h
  have hmade := hown.makes
  rw [hrecording.isCall] at hmade
  rw [hown.depth] at hmakes
  exact Makes.completes (.recorded hrecording hproposals) hconnect (hmade.trans hmakes)

theorem Serves.finish (he : e.Serves id) (w : World) :
    ∃ w₁, w.Proposing id w₁ ∧ (e.finish w).2 = w₁.close := by
  obtain ⟨w₁, hquiet, hfinish⟩ := exists_finish he.connected w
  exact ⟨w₁, hquiet.proposing id, by rw [hfinish]⟩

/-- **Whatever happens between the start of an engine and its end, its calls keep to the
protocol.** -/
theorem completes_execute (hb : body.Nests) {options : RunOptions}
    {outcome : Except EngineError RunOutput} (hc : e.connected = false)
    (h : e.execute limit body options w = some (outcome, w')) : w.Completes e.record w' := by
  simp only [execute] at h
  split at h
  · cases h
  · rename_i hstart
    cases h
    cases starts_start hstart with
    | refused _ hconnect => exact hconnect.completes _
    | unrecorded _ hconnect hrecording hown =>
      have hmade := hown.makes
      rw [hrecording.isCall] at hmade
      exact Makes.completes (.unrecorded hrecording) hconnect hmade
    | stopped _ hconnect hrecording hown hchecks =>
      exact completes_of_proposing hconnect hrecording hown (hchecks.writes rfl).1.proposing
  · rename_i e₁ w₁ hstart
    cases starts_start hstart with
    | already hconnected => cases hconnected.symm.trans hc
    | @started own run e₂ _ _ _ _ hconnect hrecording hown hchecks =>
      obtain ⟨hw, hrecord⟩ := hchecks.writes rfl
      have he₁ : e₂.openScope.Serves run.id := ⟨hchecks.connected, hrecord⟩
      -- However far the driver gets, the engine is finished from there.
      have hend {e₃ : Engine} {w₃ : World} (he₃ : e₃.Serves run.id)
          (hp : w₁.Proposing run.id w₃) : w.Completes e.record (e₃.finish w₃).2 := by
        obtain ⟨w₄, hp', hfinish⟩ := he₃.finish w₃
        rw [hfinish]
        exact completes_of_proposing hconnect hrecording hown ((hw.proposing.trans hp).trans hp')
      split at h
      · cases h
        exact hend he₁ (.refl ..)
      · split at h
        · cases h
        · rename_i hdrive
          cases h
          obtain ⟨hp, he₃⟩ := he₁.driven hb (driven_drive hdrive)
          exact hend he₃ hp

end Engine

/-! ## Callers -/

namespace World

variable {w left : World} {limit : Nat} {flow : Flow} {request : RunRequest} {reply : RunReply}

/-- There is no engine for a request: there is no client for it, or none where it is to be
driven. -/
def Stranded (w : World) (request : RunRequest) : Prop :=
  (∃ error, w.clientFor request.options = .error error) ∨
  ∃ client error, w.clientFor request.options = .ok client ∧
    ({ w with client }.board request.entry).1 = .error error

/-- `left` comes after `w`, and in between a request was dealt with: a run was started and came to
its end, or there was no engine for it. Its client was `client` at first and is `client'` now. -/
def Fulfils (w : World) (request : RunRequest) (client client' : Client) (left : World) : Prop :=
  ∃ made, w.Carries w.scopes.length client made client' left ∧
    ((∃ own runs, RunAt w.scopes.length w.nested request.options.flowRun own made runs) ∨
      made = [] ∧ w.Stranded request)

theorem fulfils_runFlow {body : Invoke} {client : Client} (hb : body.Nests)
    (hclient : w.clientFor request.options = .ok client)
    (h : w.runFlow limit body flow request = some (reply, left)) :
    w.Fulfils request client reply.client left := by
  have hboard := quiet_board { w with client } request.entry
  simp only [runFlow, hclient] at h
  split at h <;> rename_i heq <;> rw [heq] at hboard
  · rename_i error stuck
    cases h
    obtain ⟨hdepth, hevents, hheard⟩ := hboard.carries w.scopes.length
    have hstuck : w.Carries w.scopes.length client [] stuck.client stuck :=
      ⟨hdepth, hevents, hheard⟩
    exact ⟨[], hstuck.before (w.adds_alight stuck request),
      .inr ⟨rfl, .inr ⟨client, _, hclient, congrArg Prod.fst heq⟩⟩⟩
  · split at h
    · cases h
    · rename_i outcome done hexecute
      cases h
      obtain ⟨own, made, runs, ⟨hdepth, hevents, hheard⟩, hrun⟩ :=
        (Engine.completes_execute hb rfl hexecute).after hboard
      have hdone : w.Carries w.scopes.length client made done.client done :=
        ⟨hdepth, hevents, hheard⟩
      exact ⟨made, hdone.before (w.adds_alight done request), .inl ⟨own, runs, hrun⟩⟩

/-- What was done for a request inside a body belongs to the runs that are nested in the body's. -/
theorem Fulfils.makes {d : Nat} {client client' : Client}
    (h : w.Fulfils request client client' left) (hd : w.scopes.length = d + 1)
    (hclient : client = w.client ∧ left.client = client' ∨ left.client = w.client) :
    ∃ runs, w.Makes d [] runs left := by
  obtain ⟨made, ⟨hdepth, hevents, heard, hheard, hc⟩, hcalls⟩ := h
  have hnested : w.nested = true := by simp [nested, hd]
  rw [hd] at hheard
  rw [hd, hnested] at hcalls
  obtain ⟨runs, hnesting⟩ : ∃ runs, Nesting d [] made runs := by
    rcases hcalls with ⟨own, runs, hrun⟩ | ⟨rfl, -⟩
    · exact ⟨own :: runs, hrun.nesting_run⟩
    · exact ⟨[], .nil⟩
  refine ⟨runs, made, ⟨hdepth, hevents, ?_⟩, hnesting⟩
  rcases hclient with ⟨rfl, rfl⟩ | hleft
  · exact ⟨heard, hheard.around (Nat.le_succ d), hc⟩
  · -- A client that the run brought along was handed back.
    refine ⟨[], ?_, hleft ▸ .nil⟩
    rcases hcalls with ⟨own, runs, hrun⟩ | ⟨rfl, -⟩
    · exact List.append_nil made ▸ Heard.elsewhere (Nat.lt_succ_self d) hrun .nil
    · exact .nil

/-- A client that is not the enclosing run's is handed back. -/
theorem client_alight (w left : World) (request : RunRequest) : (w.alight request left).client =
    if request.options.client.isNone && !w.scopes.isEmpty then left.client else w.client := by
  simp only [alight]
  split <;> cases request.entry <;> rfl

theorem client_runFlow {body : Invoke} {client : Client}
    (hclient : w.clientFor request.options = .ok client)
    (h : w.runFlow limit body flow request = some (reply, left)) : left.client =
      if request.options.client.isNone && !w.scopes.isEmpty then reply.client else w.client := by
  simp only [runFlow, hclient] at h
  split at h
  · cases h
    exact client_alight ..
  · split at h <;> cases h
    exact client_alight ..

/-- A run inside a body either brings a client along or has that of the run around it. -/
theorem makes_runFlow {body : Invoke} {d : Nat} (hb : body.Nests) (hd : w.scopes.length = d + 1)
    (h : w.runFlow limit body flow request = some (reply, left)) :
    ∃ runs, w.Makes d [] runs left := by
  have hscopes : w.scopes.isEmpty = false := by
    cases hs : w.scopes with
    | nil => simp [hs] at hd
    | cons => rfl
  cases hown : request.options.client with
  | none =>
    have hclient : w.clientFor request.options = .ok w.client := by
      simp [clientFor, hown, hscopes]
    have hleft := client_runFlow hclient h
    rw [hown, hscopes] at hleft
    exact (fulfils_runFlow hb hclient h).makes hd (.inl ⟨rfl, hleft⟩)
  | some client =>
    have hclient : w.clientFor request.options = .ok client := by
      simp only [clientFor, hown]
    have hleft := client_runFlow hclient h
    rw [hown] at hleft
    exact (fulfils_runFlow hb hclient h).makes hd (.inr hleft)

/-- What a body does itself is no call of an engine, though it may make proposals. -/
theorem makes_perform (w : World) (action : Action) (d : Nat) :
    w.Makes d [] [] (w.perform action).2 := by
  have hnothing {w' : World} (he : w'.journal.events = w.journal.events) :
      ∃ es, w'.journal.events = w.journal.events ++ es ∧ es.filter (·.2.isCall) = [] :=
    ⟨[], he.trans (List.append_nil _).symm, rfl⟩
  have hsame {w' : World} (hd : w'.scopes.length = w.scopes.length)
      (he : w'.journal.events = w.journal.events) (hc : w'.client = w.client) :
      w.Makes d [] [] w' :=
    ⟨[], ⟨hd, hnothing he, [], .nil, hc ▸ .nil⟩, .nil⟩
  cases action with
  | note | sleep | occupy => exact hsame rfl rfl rfl
  | log | look | snapshot =>
    simp only [perform, inScope]
    split <;> exact hsame rfl rfl rfl
  | print =>
    simp only [perform, inScope]
    split
    · exact hsame rfl rfl rfl
    · split <;> exact hsame rfl rfl rfl
  | dynamicKey | spawn =>
    simp only [perform, inScope]
    split
    · exact hsame rfl rfl rfl
    · rename_i hs
      exact (writes_withScope (by simp [hs])).quiet.makes d
  | propose s =>
    simp only [perform, inScope]
    split
    · exact hsame rfl rfl rfl
    · rename_i scope _ _
      exact ⟨[], ⟨rfl, hnothing rfl, _, .body _ _ _ .nil,
        (Client.Hears.propose w.client w.now scope.runId s).handles⟩, .nil⟩

end World

/-! ## Bodies -/

/-- **A body makes no calls but those of complete runs.** -/
theorem Program.exists_makes {limit d : Nat} {program : Program} {w w' : World}
    {outcome : Except Failure Json} (hd : w.scopes.length = d + 1)
    (h : program.run limit w = some (outcome, w')) : ∃ runs, w.Makes d [] runs w' := by
  induction program generalizing d w w' outcome with
  | done =>
    cases h
    exact ⟨[], World.Quiet.makes (.refl ..) d⟩
  | perform action next ih =>
    have hw := w.makes_perform action d
    obtain ⟨runs, hrest⟩ := ih _ (hw.length.trans hd) h
    exact ⟨_, hw.trans hrest⟩
  | runFlow flow body request next ihBody ihNext =>
    simp only [run] at h
    split at h
    · cases h
    · rename_i reply left heq
      -- The body of the nested run is a smaller program, whatever it is given.
      obtain ⟨runs, hfirst⟩ := World.makes_runFlow ⟨fun hd hb => ihBody _ _ hd hb⟩ hd heq
      obtain ⟨runs', hrest⟩ := ihNext _ (hfirst.length.trans hd) h
      exact ⟨_, hfirst.trans hrest⟩

theorem Body.nests_invoke (limit : Nat) (body : Body) : (body.invoke limit).Nests :=
  ⟨fun hd h => Program.exists_makes hd h⟩

namespace World

variable {w left : World} {limit : Nat} {flow : Flow} {request : RunRequest} {reply : RunReply}

/-- **The calls of a run and of all runs nested in it.** Each run keeps to the protocol, the calls
of a nested one stand between two calls of the engine around it, and whichever of the runs share a
client, it is closed as often as it was connected. Where there is no engine there are no calls. The
client of the run was made these calls, but for those of nested runs with clients of their own, and
has them on record if it keeps one. -/
theorem runFlow_protocol {body : Body}
    (h : w.runFlow limit (body.invoke limit) flow request = some (reply, left)) :
    ((∃ own runs,
      RunAt w.scopes.length w.nested request.options.flowRun own (w.calls left) runs ∧
      ∀ shared : List (List Event), shared.Sublist (own :: runs) →
        shared.flatten.countP Event.opens = shared.flatten.countP Event.closes) ∨
    w.calls left = [] ∧ w.Stranded request) ∧
    ∀ client, w.clientFor request.options = .ok client → ∃ heard,
      client.Handles heard reply.client ∧ Heard w.scopes.length (w.calls left) heard ∧
      heard.countP Event.opens = heard.countP Event.closes ∧
      ∀ c, client = .inMemory c → ∃ c', reply.client = .inMemory c' ∧ c.Tallies heard c' := by
  have hnests := body.nests_invoke limit
  cases hclient : w.clientFor request.options with
  | error error =>
    simp only [runFlow, hclient] at h
    cases h
    refine ⟨.inr ⟨?_, .inl ⟨error, hclient⟩⟩, fun _ hc => by cases hc⟩
    simp [calls]
  | ok client =>
    obtain ⟨made, hcarries, hcalls⟩ := fulfils_runFlow hnests hclient h
    obtain ⟨heard, hheard, hc⟩ := hcarries.client
    rw [hcarries.calls]
    constructor
    · rcases hcalls with ⟨own, runs, hrun⟩ | hnone
      · exact .inl ⟨own, runs, hrun, fun shared hs => hrun.countP_opens hs⟩
      · exact .inr hnone
    · rintro _ ⟨⟩
      refine ⟨heard, hc, hheard, ?_, fun c hmemory => ?_⟩
      · have hcount := hheard.countP_opens
        rcases hcalls with ⟨own, runs, hrun⟩ | ⟨rfl, -⟩
        · have := hrun.countP_opens_calls
          omega
        · exact hcount
      · subst hmemory
        exact hc.exists_tallies

/-- A body that runs two flows. The body of the first runs a third one, whose client does not
connect, and the second is not registered as a task. -/
def branching : Body := fun _ _ =>
  .runFlow { name := "first" }
    (fun _ _ =>
      .runFlow { name := "cut off" } (fun _ _ => .done (.ok .null))
        { options := { client := some (.inMemory
            { connects := [some (.error (.unreachable "nobody there"))] }) } }
        fun _ => .done (.ok .null))
    {} fun _ =>
  .runFlow { name := "second" } (fun _ _ => .done (.ok .null)) {} fun _ => .done (.ok .null)

/-- A request to an orchestrator that registers one task. -/
def oneTask : RunRequest :=
  { options := { client := some (.inMemory
      { taskCreations := [none, some (.error (.unreachable "gone"))] }) } }

/-- The client counts three runs, without the one that has a client of its own. -/
theorem runFlow_protocol_branching : ∃ reply left own runs c,
    ({} : World).runFlow 3 (branching.invoke 3) { name := "outer" } oneTask = some (reply, left) ∧
    (({} : World).calls left).map (·.1) = [0, 0, 0, 1, 1, 1, 1, 2, 1, 1, 1, 1, 1, 0, 0] ∧
    RunAt 0 false none own (({} : World).calls left) runs ∧
    (own :: runs).flatten.countP Event.opens = (own :: runs).flatten.countP Event.closes ∧
    reply.client = .inMemory c ∧ c.orchestrator.closes = 3 ∧ c.orchestrator.connects = 3 := by
  have hresult : (({} : World).runFlow 3 (branching.invoke 3) { name := "outer" } oneTask).map
      (fun p => ((({} : World).calls p.2).map (·.1), p.1.client.orchestrator?.map (·.closes))) =
        some ([0, 0, 0, 1, 1, 1, 1, 2, 1, 1, 1, 1, 1, 0, 0], some 3) := by decide +kernel
  obtain ⟨⟨reply, left⟩, hrun, hpair⟩ := Option.map_eq_some_iff.1 hresult
  obtain ⟨hdepths, hcloses⟩ := Prod.mk.inj hpair
  obtain ⟨hcalls, hclient⟩ := runFlow_protocol hrun
  obtain ⟨heard, -, -, hturns, hrecord⟩ := hclient _ rfl
  obtain ⟨c, hc, htallies⟩ := hrecord _ rfl
  have hclosed : c.orchestrator.closes = 3 := by
    rw [hc] at hcloses
    exact Option.some.inj hcloses
  have hconnects : c.orchestrator.connects = 3 := by
    rw [(htallies.connects rfl).2, hturns, ← hclosed, htallies.closes]
  rcases hcalls with ⟨own, runs, hat, hshared⟩ | ⟨hnone, -⟩
  · exact ⟨reply, left, own, runs, c, hrun, hdepths, hat, hshared _ (.refl _), hc, hclosed,
      hconnects⟩
  · rw [hnone] at hdepths
    cases hdepths

end World

end RunEngine
