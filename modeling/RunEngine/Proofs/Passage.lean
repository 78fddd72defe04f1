import RunEngine.Proofs.Client
import RunEngine.World

/-!
# From one world to a later one

The journal is one list for a run and all the runs nested in it, each event with the number of
scopes around it. What the engine of a run did itself are the events at its own depth; those of
nested runs are deeper. `Passage w own w'` says that `w'` is a world after `w` in which the engine
at the depth of `w` did `own`, in that order, and what else holds between two such worlds: the same
scopes around, the same time on records, and a client that was only called.

Passages compose, and each operation of an engine is one. A body is run one scope deeper, so of
everything that happens in it only its beginning and its end are the engine's own
(`passage_invoke`).

`conduct` reads the engine's own events back from the journals of the two worlds.
-/

namespace RunEngine

/-! ## Events -/

namespace Event

/-- The proposal that an event is, and its answer. -/
def proposal? : Event → Option (Uuid × State × Except ClientError Answer)
  | propose id state answer => some (id, state, answer)
  | _ => none

/-- Whether an event is the beginning of an attempt. -/
def isInvocation : Event → Bool
  | invoke _ => true
  | _ => false

/-- Whether an event is a proposal to run. -/
def proposesRunning : Event → Bool
  | propose _ state _ => state.type == .running
  | _ => false

/-- The value that an attempt ended with. -/
def value? : Event → Option Json
  | returned (.ok value) => some value
  | _ => none

/-- Whether an event is the beginning or the end of an attempt. -/
def isOfBody : Event → Bool
  | invoke _ | returned _ => true
  | _ => false

/-- Whether an event is neither part of an attempt nor a proposal. -/
def isClerical (e : Event) : Bool := !e.isOfBody && e.proposal?.isNone

/-- Whether an event is part of finishing a run. -/
def isOfFinish : Event → Bool
  | settle _ | report _ | close => true
  | _ => false

theorem isClerical_of_isOfFinish {e : Event} (h : e.isOfFinish) : e.isClerical := by
  cases e <;> first | rfl | cases h

theorem isOfBody_of_isClerical {e : Event} (h : e.isClerical) : e.isOfBody = false := by
  simp only [isClerical, Bool.and_eq_true, Bool.not_eq_true'] at h
  exact h.1

/-- The error of an engine that was refused something it needs before it can propose. -/
def refusal? : Event → Option EngineError
  | connect (.error error) => some (.connection error)
  | createTaskRun _ (.error error) => some (.client error)
  | createFlowRun _ (.error error) => some (.client error)
  | fork (.error error) => some (.client error)
  | _ => none

theorem value?_of_isOfBody {e : Event} (h : e.isOfBody = false) : e.value? = none := by
  cases e <;> simp_all [isOfBody, value?]

theorem isInvocation_of_isOfBody {e : Event} (h : e.isOfBody = false) :
    e.isInvocation = false := by
  cases e <;> simp_all [isOfBody, isInvocation]

end Event

namespace World

variable {w w' w'' : World} {own own' : List Event} {P Q : Event → Prop}

/-! ## Passages -/

/-- `w'` comes after `w`, and in between the engine at the depth of `w` did `own`. -/
structure Passage (w : World) (own : List Event) (w' : World) : Prop where
  now : w'.now = w.now
  client : w.client.Becomes w.now w'.client
  depth : w'.scopes.length = w.scopes.length
  outer : w'.scopes.tail = w.scopes.tail
  events : ∃ es, w'.journal.events = w.journal.events ++ es ∧
    (∀ e ∈ es, w.scopes.length ≤ e.1) ∧
    (es.filter fun e => e.1 == w.scopes.length).map (·.2) = own

/-- What the engine at the depth of `w` did until `w'`. -/
def conduct (w w' : World) : List Event :=
  ((w'.journal.events.drop w.journal.events.length).filter fun e =>
    e.1 == w.scopes.length).map (·.2)

theorem Passage.conduct (h : w.Passage own w') : w.conduct w' = own := by
  obtain ⟨es, he, -, ho⟩ := h.events
  rw [World.conduct, he, List.drop_left, ho]

/-- A change that the journal does not show. -/
theorem passage_silent (hn : w'.now = w.now) (hc : w.client.Becomes w.now w'.client)
    (hd : w'.scopes.length = w.scopes.length) (ho : w'.scopes.tail = w.scopes.tail)
    (he : w'.journal.events = w.journal.events) : w.Passage [] w' :=
  ⟨hn, hc, hd, ho, [], by simp [he], by simp, rfl⟩

theorem Passage.refl (w : World) : w.Passage [] w := passage_silent rfl (.refl ..) rfl rfl rfl

theorem Passage.trans (h : w.Passage own w') (h' : w'.Passage own' w'') :
    w.Passage (own ++ own') w'' where
  now := h'.now.trans h.now
  client := h.client.trans (h.now ▸ h'.client)
  depth := h'.depth.trans h.depth
  outer := h'.outer.trans h.outer
  events := by
    obtain ⟨es, he, hd, ho⟩ := h.events
    obtain ⟨es', he', hd', ho'⟩ := h'.events
    rw [h.depth] at hd' ho'
    refine ⟨es ++ es', by rw [he', he, List.append_assoc], fun e hm => ?_, by simp [ho, ho']⟩
    exact (List.mem_append.1 hm).elim (hd e) (hd' e)

theorem passage_record (w : World) (event : Event) : w.Passage [event] (w.record event) :=
  ⟨rfl, .refl .., rfl, rfl, [(w.scopes.length, event)], rfl, by simp, by simp⟩

/-! ## Operations -/

theorem passage_sleep (w : World) (duration : Nat) : w.Passage [] (w.sleep duration) :=
  passage_silent rfl (.refl ..) rfl rfl rfl

/-- A call of the client, which may use up an identifier. -/
theorem passage_call (w : World) (client : Client) (ids : IdSupply) (event : Event)
    (h : w.client.Becomes w.now client) :
    w.Passage [event] ({ w with client, ids }.record event) :=
  ⟨rfl, h, rfl, rfl, [(w.scopes.length, event)], rfl, by simp, by simp⟩

theorem passage_connect (w : World) : w.Passage [.connect w.connect.1] w.connect.2 :=
  passage_call w w.client.connect.2 w.ids _ (w.client.becomes_connect _)

theorem passage_close (w : World) : w.Passage [.close] w.close :=
  passage_call w w.client.close w.ids _ (w.client.becomes_close _)

theorem passage_fork (w : World) : w.Passage [.fork w.fork.1] w.fork.2 :=
  passage_call w w.client.fork.2 w.ids _ (w.client.becomes_fork _)

theorem passage_createTaskRun (w : World) (request : TaskRunRequest) :
    w.Passage [.createTaskRun request (w.createTaskRun request).1] (w.createTaskRun request).2 :=
  passage_call w (w.client.createTaskRun w.ids request).2.1
    (w.client.createTaskRun w.ids request).2.2 _ (w.client.becomes_createTaskRun ..)

theorem passage_createFlowRun (w : World) (request : FlowRunRequest) :
    w.Passage [.createFlowRun request (w.createFlowRun request).1] (w.createFlowRun request).2 :=
  passage_call w (w.client.createFlowRun w.ids w.now request).2.1
    (w.client.createFlowRun w.ids w.now request).2.2 _ (w.client.becomes_createFlowRun ..)

theorem passage_propose (w : World) (id : Uuid) (s : State) :
    w.Passage [.propose id s (w.propose id s).1] (w.propose id s).2 :=
  passage_call w (w.client.propose w.now id s).2 w.ids _ (w.client.becomes_propose ..)

theorem passage_settle (w : World) (group : TaskGroup) :
    w.Passage [.settle group.effective] (w.settle group) :=
  ⟨rfl, .refl .., rfl, rfl, [(w.scopes.length, _)], rfl, by simp, by simp⟩

theorem passage_withScope {scope : Scope} (h : w.scopes ≠ []) :
    w.Passage [] (w.withScope scope) := by
  obtain ⟨s, rest, hs⟩ := List.exists_cons_of_ne_nil h
  exact passage_silent rfl (.refl ..) (by simp [withScope, hs]) (by simp [withScope, hs]) rfl

/-- The world with another client, which is handed back afterwards. -/
theorem Passage.withClient {client : Client} (h : { w with client }.Passage own w') :
    w.Passage own { w' with client := w.client } :=
  ⟨h.now, .refl .., h.depth, h.outer, h.events⟩

/-! ## Passages of some kind -/

/-- `w'` comes after `w`, and all that the engine at the depth of `w` did in between is `P`. -/
def Leads (w : World) (P : Event → Prop) (w' : World) : Prop :=
  ∃ own, w.Passage own w' ∧ ∀ e ∈ own, P e

theorem Passage.leads (h : w.Passage own w') (hP : ∀ e ∈ own, P e) : w.Leads P w' := ⟨own, h, hP⟩

theorem Passage.leads_nil (h : w.Passage [] w') : w.Leads P w' := h.leads (by simp)

theorem Passage.leads_one {e : Event} (h : w.Passage [e] w') (he : P e) : w.Leads P w' :=
  h.leads (by simpa using he)

theorem Leads.refl (w : World) (P : Event → Prop) : w.Leads P w := ⟨[], .refl w, by simp⟩

theorem Leads.trans (h : w.Leads P w') (h' : w'.Leads P w'') : w.Leads P w'' := by
  obtain ⟨own, hp, hP⟩ := h
  obtain ⟨own', hp', hP'⟩ := h'
  exact ⟨own ++ own', hp.trans hp', fun e he => (List.mem_append.1 he).elim (hP e) (hP' e)⟩

theorem Leads.mono (h : w.Leads P w') (hPQ : ∀ e, P e → Q e) : w.Leads Q w' := by
  obtain ⟨own, hp, hP⟩ := h
  exact ⟨own, hp, fun e he => hPQ e (hP e he)⟩

theorem leads_report (w : World) (s : State) : w.Leads (·.isOfFinish) (w.report s) := by
  unfold report
  split
  · exact .refl ..
  · rename_i scope rest hs
    have h : w.Passage [] { w with scopes := scope.recordChild s :: rest } :=
      passage_silent rfl (.refl ..) (by simp [hs]) (by simp [hs]) rfl
    exact (h.trans (passage_record ..)).leads_one rfl

/-- `w'` comes after `w`, and in between the engine at the depth of `w` was at preparations. What
came of them is an error only if something was refused. -/
def Prepares {α : Type} (w : World) (outcome : Except EngineError α) (w' : World) : Prop :=
  ∃ own, w.Passage own w' ∧ (∀ e ∈ own, e.isClerical) ∧
    ∀ error, outcome = .error error → ∃ e ∈ own, e.refusal? = some error

theorem Prepares.leads {α : Type} {outcome : Except EngineError α}
    (h : w.Prepares outcome w') : w.Leads (·.isClerical) w' := by
  obtain ⟨own, hp, hc, -⟩ := h
  exact ⟨own, hp, hc⟩

theorem prepares_refl {α : Type} (w : World) (a : α) : w.Prepares (.ok a) w :=
  ⟨[], .refl w, by simp, by simp⟩

theorem Passage.prepares {α : Type} {e : Event} {outcome : Except EngineError α}
    (h : w.Passage [e] w') (he : e.isClerical)
    (hr : ∀ error, outcome = .error error → e.refusal? = some error) : w.Prepares outcome w' :=
  ⟨[e], h, by simpa using he, fun error ho => ⟨e, by simp, hr error ho⟩⟩

/-- More preparations, after those that had an outcome to go on with. -/
theorem Leads.prepares {α : Type} {outcome : Except EngineError α}
    (h : w.Leads (·.isClerical) w') (h' : w'.Prepares outcome w'') : w.Prepares outcome w'' := by
  obtain ⟨own, hp, hc⟩ := h
  obtain ⟨own', hp', hc', hr⟩ := h'
  refine ⟨own ++ own', hp.trans hp', fun e he => (List.mem_append.1 he).elim (hc e) (hc' e),
    fun error ho => ?_⟩
  obtain ⟨e, he, hre⟩ := hr error ho
  exact ⟨e, List.mem_append_right own he, hre⟩

/-- An engine may clear up after preparations. -/
theorem Prepares.before {α : Type} {outcome : Except EngineError α}
    (h : w.Prepares outcome w') (h' : w'.Leads (·.isClerical) w'') : w.Prepares outcome w'' := by
  obtain ⟨own, hp, hc, hr⟩ := h
  obtain ⟨own', hp', hc'⟩ := h'
  refine ⟨own ++ own', hp.trans hp', List.forall_mem_append.2 ⟨hc, hc'⟩, fun error ho => ?_⟩
  obtain ⟨e, he, hre⟩ := hr error ho
  exact ⟨e, List.mem_append_left own' he, hre⟩

theorem Prepares.silent {α : Type} {outcome : Except EngineError α}
    (h : w.Prepares outcome w') (h' : w'.Passage [] w'') : w.Prepares outcome w'' := by
  obtain ⟨own, hp, h⟩ := h
  have hp := hp.trans h'
  rw [List.append_nil] at hp
  exact ⟨own, hp, h⟩

theorem prepares_fork (w : World) : w.Prepares (w.fork.1.mapError .client) w.fork.2 :=
  (passage_fork w).prepares rfl fun error h => by
    cases hc : w.fork.1 <;> rw [hc] at h <;> cases h
    rfl

theorem prepares_connect (w : World) :
    w.Prepares (w.connect.1.mapError .connection) w.connect.2 :=
  (passage_connect w).prepares rfl fun error h => by
    cases hc : w.connect.1 <;> rw [hc] at h <;> cases h
    rfl

/-! ## What a passage takes -/

/-- `w'` comes after `w`, and in between the engine at the depth of `w` proposed to run and made
attempts so many times. -/
def Spends (w : World) (admissions attempts : Nat) (w' : World) : Prop :=
  ∃ own, w.Passage own w' ∧ own.countP Event.proposesRunning = admissions ∧
    own.countP Event.isInvocation = attempts

theorem Passage.spends (h : w.Passage own w') : w.Spends (own.countP Event.proposesRunning)
    (own.countP Event.isInvocation) w' := ⟨own, h, rfl, rfl⟩

theorem Spends.trans {m m' n n' : Nat} (h : w.Spends m n w') (h' : w'.Spends m' n' w'') :
    w.Spends (m + m') (n + n') w'' := by
  obtain ⟨own, hp, rfl, rfl⟩ := h
  obtain ⟨own', hp', rfl, rfl⟩ := h'
  exact ⟨own ++ own', hp.trans hp', List.countP_append, List.countP_append⟩

theorem Spends.now {m n : Nat} (h : w.Spends m n w') : w'.now = w.now := by
  obtain ⟨own, hp, -⟩ := h
  exact hp.now

theorem Spends.conduct {m n : Nat} (h : w.Spends m n w') :
    (w.conduct w').countP Event.proposesRunning = m ∧
      (w.conduct w').countP Event.isInvocation = n := by
  obtain ⟨own, hp, hm, hn⟩ := h
  rw [hp.conduct]
  exact ⟨hm, hn⟩

theorem Leads.spends (h : w.Leads (·.isClerical) w') : w.Spends 0 0 w' := by
  obtain ⟨own, hp, hc⟩ := h
  refine ⟨own, hp, List.countP_eq_zero.2 fun e he => ?_, List.countP_eq_zero.2 fun e he => ?_⟩ <;>
  · have := hc e he
    cases e <;> simp_all [Event.isClerical, Event.isOfBody, Event.proposal?, Event.proposesRunning,
      Event.isInvocation]

/-- Whatever a body takes for an action is hidden from the engine's own events. -/
theorem passage_perform (w : World) (action : Action) : w.Passage [] (w.perform action).2 := by
  cases action with
  | note | sleep | occupy => exact passage_silent rfl (.refl ..) rfl rfl rfl
  | log | look | snapshot =>
    simp only [perform, inScope]
    split <;> exact passage_silent rfl (.refl ..) rfl rfl rfl
  | print =>
    simp only [perform, inScope]
    split
    · exact .refl w
    · split <;> exact passage_silent rfl (.refl ..) rfl rfl rfl
  | dynamicKey | spawn =>
    simp only [perform, inScope]
    split
    · exact .refl w
    · rename_i hs
      exact passage_withScope (by simp [hs])
  | propose s =>
    simp only [perform, inScope]
    split
    · exact .refl w
    · exact passage_silent rfl (w.client.becomes_propose ..) rfl rfl rfl

end World

end RunEngine
