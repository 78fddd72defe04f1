import Mathlib.Data.List.Forall2
import RunEngine.Run

/-!
# Executions that are alike

Two executions of one program are followed side by side. What may tell them apart is said by a
`Likeness`: how their clients stand to each other, how their journals do, and of which run it does
not count how its caller waits for it. In all else that a body can get to see they are the same;
only the clocks may be apart.

`World.Alike` relates the worlds of the two executions at a depth, which is the number of scopes
around what happens. Everything that a world offers to engines and bodies keeps two worlds alike if
the calls of related clients have the same answers (`Likeness.Keeps`). A proposal of a body is one
such call (`Likeness.Answers`). An engine may make a proposal again and again, and the two engines
need not do so equally often; so what its proposals need is asked of the whole of one
(`Likeness.Follows`), together with what the bounds of the two executions have to do with each
other.
-/

namespace RunEngine

/-! ## Scopes -/

/-- The task, whenever it wakes up. -/
def BackgroundTask.undated (t : BackgroundTask) : BackgroundTask := { t with due := 0 }

/-- The groups have the same tasks. When these wake up does not count, nor does it, if that is
`masked`, what they run on. -/
structure TaskGroup.Alike (masked : Bool) (g g' : TaskGroup) : Prop where
  isPrivate : masked = false → g'.isPrivate = g.isPrivate
  tasks : g'.tasks.map (·.undated) = g.tasks.map (·.undated)

/-- The scopes are the same, up to how the caller waits for the run if that is `masked`. -/
inductive Scope.Alike (masked : Bool) (s : Scope) : Scope → Prop
  | mk {mode : ExecutionMode} {group : TaskGroup} : (masked = false → mode = s.mode) →
      s.group.Alike masked group → Alike masked s { s with mode, group }

/-- The scopes around two runs, innermost first. How the caller waits does not count for the run at
depth `apart`. -/
inductive ScopesAlike (apart : Option Nat) : List Scope → List Scope → Prop
  | nil : ScopesAlike apart [] []
  | cons {s s' : Scope} {rest rest' : List Scope} : s.Alike (apart == some rest.length) s' →
      ScopesAlike apart rest rest' → ScopesAlike apart (s :: rest) (s' :: rest')

inductive Note.Alike (apart : Option Nat) : Note → Note → Prop
  | value (v : Json) : Alike apart (.value v) (.value v)
  | scopes {ss ss' : List Scope} : ScopesAlike apart ss ss' → Alike apart (.scopes ss) (.scopes ss')

namespace BackgroundTask

variable {tasks tasks' : List BackgroundTask}

theorem generations_map_undated (tasks : List BackgroundTask) :
    generations (tasks.map undated) = generations tasks := by
  induction tasks with
  | nil => rfl
  | cons t rest ih => rw [List.map_cons, generations, generations, ih, undated]

/-- What a task spawns wakes up so much later than the task itself. -/
theorem map_undated_spawned (tasks : List BackgroundTask) :
    (tasks.flatMap spawned).map undated =
      (tasks.map undated).flatMap fun t => t.spawns.map fun p => (p.begun 0).undated := by
  induction tasks with
  | nil => rfl
  | cons t rest ih =>
    rw [List.flatMap_cons, List.map_append, ih, List.map_cons, List.flatMap_cons, spawned,
      List.map_map]
    rfl

theorem map_undated_rounds (limit : Nat) (h : tasks'.map undated = tasks.map undated) :
    (rounds limit tasks').map undated = (rounds limit tasks).map undated := by
  induction limit generalizing tasks tasks' with
  | zero => rfl
  | succ limit ih =>
    have hawake (tasks : List BackgroundTask) :
        (tasks.map awake).map undated = (tasks.map undated).map awake := by
      rw [List.map_map, List.map_map]
      rfl
    have hspawned : (tasks'.flatMap spawned).map undated = (tasks.flatMap spawned).map undated := by
      rw [map_undated_spawned, map_undated_spawned, h]
    rw [rounds, rounds, List.map_append, List.map_append, hawake, hawake, h, ih hspawned]

/-- The same tasks are waited for in the same order. -/
theorem map_undated_inRounds (h : tasks'.map undated = tasks.map undated) :
    (inRounds tasks').map undated = (inRounds tasks).map undated := by
  rw [inRounds, inRounds, ← generations_map_undated tasks', h, generations_map_undated]
  exact map_undated_rounds _ h

end BackgroundTask

namespace TaskGroup

variable {masked : Bool} {g g' : TaskGroup}

theorem Alike.refl (masked : Bool) (g : TaskGroup) : g.Alike masked g := ⟨fun _ => rfl, rfl⟩

theorem Alike.symm (h : g.Alike masked g') : g'.Alike masked g :=
  ⟨fun hm => (h.isPrivate hm).symm, h.tasks.symm⟩

theorem Alike.spawn (h : g.Alike masked g') (plan : TaskPlan) (now now' : Nat) :
    (g.spawn (plan.begun now)).Alike masked (g'.spawn (plan.begun now')) where
  isPrivate := h.isPrivate
  tasks := by
    rw [TaskGroup.spawn, TaskGroup.spawn, List.map_append, List.map_append, h.tasks]
    rfl

theorem effective_eq (g : TaskGroup) : g.effective =
    (((BackgroundTask.inRounds g.tasks).map (·.undated)).filter fun t => !t.panics).map
      (·.name) := by
  rw [List.filter_map, List.map_map]
  rfl

theorem Alike.effective (h : g.Alike masked g') : g'.effective = g.effective := by
  rw [effective_eq, effective_eq, BackgroundTask.map_undated_inRounds h.tasks]

end TaskGroup

namespace Scope

variable {masked : Bool} {s s' : Scope}

theorem Alike.refl (masked : Bool) (s : Scope) : s.Alike masked s := .mk (fun _ => rfl) (.refl ..)

theorem Alike.symm (h : s.Alike masked s') : s'.Alike masked s := by
  cases h with
  | mk hmode hgroup => exact .mk (fun hm => (hmode hm).symm) hgroup.symm

theorem Alike.group (h : s.Alike masked s') : s.group.Alike masked s'.group := by
  cases h with
  | mk _ hgroup => exact hgroup

theorem Alike.runId (h : s.Alike masked s') : s'.runId = s.runId := by cases h; rfl

theorem Alike.nextDynamicKey (h : s.Alike masked s') (taskKey : String) :
    (s'.nextDynamicKey taskKey).1 = (s.nextDynamicKey taskKey).1 ∧
      (s.nextDynamicKey taskKey).2.Alike masked (s'.nextDynamicKey taskKey).2 := by
  cases h with
  | mk hmode hgroup =>
    exact ⟨rfl, .mk (s := (s.nextDynamicKey taskKey).2) hmode hgroup⟩

end Scope

namespace ScopesAlike

variable {apart : Option Nat} {ss ss' : List Scope}

theorem refl (apart : Option Nat) (ss : List Scope) : ScopesAlike apart ss ss := by
  induction ss with
  | nil => exact .nil
  | cons s rest ih => exact .cons (.refl ..) ih

theorem length (h : ScopesAlike apart ss ss') : ss'.length = ss.length := by
  induction h with
  | nil => rfl
  | cons _ _ ih => simp [ih]

theorem symm (h : ScopesAlike apart ss ss') : ScopesAlike apart ss' ss := by
  induction h with
  | nil => exact .nil
  | cons hs hrest ih =>
    refine .cons ?_ ih
    rw [hrest.length]
    exact hs.symm

end ScopesAlike

theorem Note.Alike.symm {apart : Option Nat} {a b : Note} (h : a.Alike apart b) :
    b.Alike apart a := by
  cases h with
  | value v => exact .value v
  | scopes hs => exact .scopes hs.symm

theorem Note.Alike.refl (apart : Option Nat) (a : Note) : a.Alike apart a := by
  cases a with
  | value v => exact .value v
  | scopes ss => exact .scopes (.refl ..)

/-! ## Worlds -/

/-- What may be different in two executions that are followed side by side. -/
structure Likeness where
  /-- How a client stands to the one in its place in the other execution. -/
  client : Client → Client → Prop
  /-- How what engines did stands to what they did in the other execution. -/
  events : List (Nat × Event) → List (Nat × Event) → Prop
  /-- The depth of the run for which it does not count how its caller waits. -/
  apart : Option Nat := none

/-- The worlds of the two executions, at one depth. -/
structure World.Alike (l : Likeness) (depth : Nat) (w w' : World) : Prop where
  depth : w.scopes.length = depth
  client : l.client w.client w'.client
  scopes : ScopesAlike l.apart w.scopes w'.scopes
  events : l.events w.journal.events w'.journal.events
  notes : List.Forall₂ (Note.Alike l.apart) w.journal.notes w'.journal.notes
  logs : w'.journal.logs = w.journal.logs
  printed : w'.journal.printed = w.journal.printed
  background : w'.journal.background = w.journal.background
  defaultClient : w'.defaultClient = w.defaultClient
  onRuntime : w'.onRuntime = w.onRuntime
  now : w'.now = w.now
  ids : w'.ids = w.ids

namespace Likeness

/-- The likeness of two executions in which the client at hand is the same. -/
def exact (l : Likeness) : Likeness := { l with client := Eq }

/-- The likeness seen from the other side. -/
def flip (l : Likeness) : Likeness :=
  { l with client := fun c c' => l.client c' c, events := fun es es' => l.events es' es }

/-- Whether it does not count how the caller of a run at this depth waits. -/
def masks (l : Likeness) (depth : Nat) : Bool := l.apart == some depth

/-- Related clients give the same answers to whatever is not a proposal, and stay related. -/
structure Keeps (l : Likeness) : Prop where
  record : ∀ {es es' : List (Nat × Event)} (e : Nat × Event), l.events es es' →
    l.events (es ++ [e]) (es' ++ [e])
  connect : ∀ {c c' : Client}, l.client c c' →
    c'.connect.1 = c.connect.1 ∧ l.client c.connect.2 c'.connect.2
  close : ∀ {c c' : Client}, l.client c c' → l.client c.close c'.close
  fork : ∀ {c c' : Client}, l.client c c' → c'.fork.1 = c.fork.1 ∧ l.client c.fork.2 c'.fork.2
  createTaskRun : ∀ {c c' : Client} (ids : IdSupply) (request : TaskRunRequest), l.client c c' →
    (c'.createTaskRun ids request).1 = (c.createTaskRun ids request).1 ∧
    l.client (c.createTaskRun ids request).2.1 (c'.createTaskRun ids request).2.1 ∧
    (c'.createTaskRun ids request).2.2 = (c.createTaskRun ids request).2.2
  createFlowRun : ∀ {c c' : Client} (ids : IdSupply) (time : Timestamp)
    (request : FlowRunRequest), l.client c c' →
    (c'.createFlowRun ids time request).1 = (c.createFlowRun ids time request).1 ∧
    l.client (c.createFlowRun ids time request).2.1 (c'.createFlowRun ids time request).2.1 ∧
    (c'.createFlowRun ids time request).2.2 = (c.createFlowRun ids time request).2.2

/-- Related clients give the same answer to a proposal, and stay related. -/
def Answers (l : Likeness) : Prop :=
  ∀ ⦃c c' : Client⦄ (time : Timestamp) (id : Uuid) (s : State), l.client c c' →
    (c'.propose time id s).1 = (c.propose time id s).1 ∧
    l.client (c.propose time id s).2 (c'.propose time id s).2

/-- Whatever an engine does in the first execution within the bound `n`, its counterpart does in the
second one within any bound `n'` that is `F n n'`. -/
structure Follows (l : Likeness) (F : Nat → Nat → Prop) : Prop extends l.Keeps where
  fuel : ∀ {n n' : Nat}, F (n + 1) n' → ∃ m, n' = m + 1 ∧ F n m
  propose : ∀ {depth n n' : Nat} {w w' v : World} {id : Uuid} {s : State}
    {r : Except EngineError State}, F n n' → w.Alike l depth w' →
    Engine.proposeUntilAnswered id s n w = some (r, v) →
    ∃ v', Engine.proposeUntilAnswered id s n' w' = some (r, v') ∧ v.Alike l depth v'

theorem Keeps.flip {l : Likeness} (h : l.Keeps) : l.flip.Keeps where
  record e he := h.record e he
  connect hc := ⟨(h.connect hc).1.symm, (h.connect hc).2⟩
  close hc := h.close hc
  fork hc := ⟨(h.fork hc).1.symm, (h.fork hc).2⟩
  createTaskRun ids request hc := by
    obtain ⟨hr, hc, hids⟩ := h.createTaskRun ids request hc
    exact ⟨hr.symm, hc, hids.symm⟩
  createFlowRun ids time request hc := by
    obtain ⟨hr, hc, hids⟩ := h.createFlowRun ids time request hc
    exact ⟨hr.symm, hc, hids.symm⟩

theorem Answers.flip {l : Likeness} (h : l.Answers) : l.flip.Answers := fun _ _ time id s hc =>
  ⟨(h time id s hc).1.symm, (h time id s hc).2⟩

/-- Clients that are the same have no reason to answer differently. -/
theorem keeps_exact {l : Likeness} (hr : ∀ {es es' : List (Nat × Event)} (e : Nat × Event),
    l.events es es' → l.events (es ++ [e]) (es' ++ [e])) : l.exact.Keeps where
  record e he := hr e he
  connect := by rintro c _ rfl; exact ⟨rfl, rfl⟩
  close := by rintro c _ rfl; rfl
  fork := by rintro c _ rfl; exact ⟨rfl, rfl⟩
  createTaskRun ids request := by rintro rfl; exact ⟨rfl, rfl, rfl⟩
  createFlowRun ids time request := by rintro rfl; exact ⟨rfl, rfl, rfl⟩

theorem Keeps.exact {l : Likeness} (h : l.Keeps) : l.exact.Keeps := keeps_exact h.record

theorem answers_exact (l : Likeness) : l.exact.Answers := by
  rintro c _ time id s rfl
  exact ⟨rfl, rfl⟩

end Likeness

namespace World

variable {l : Likeness} {depth : Nat} {w w' v : World}

/-- An operation had the same answer in both executions, and left them alike. -/
def Agree {α : Type} (l : Likeness) (depth : Nat) (x y : α × World) : Prop :=
  y.1 = x.1 ∧ x.2.Alike l depth y.2

theorem Agree.exists {α : Type} {r : α} {x y : α × World} (h : Agree l depth x y)
    (hx : x = (r, v)) : ∃ v', y = (r, v') ∧ v.Alike l depth v' := by
  subst hx
  exact ⟨y.2, Prod.ext h.1 rfl, h.2⟩

namespace Alike

theorem flip (h : w.Alike l depth w') : w'.Alike l.flip depth w where
  depth := h.scopes.length.trans h.depth
  client := h.client
  scopes := h.scopes.symm
  events := h.events
  notes := h.notes.flip.imp fun _ _ => Note.Alike.symm
  logs := h.logs.symm
  printed := h.printed.symm
  background := h.background.symm
  defaultClient := h.defaultClient.symm
  onRuntime := h.onRuntime.symm
  now := h.now.symm
  ids := h.ids.symm

/-- A world is like itself, with another client and other events if the likeness allows for that. -/
theorem refl (w : World) {client : Client} {events : List (Nat × Event)}
    (hc : l.client w.client client) (he : l.events w.journal.events events) :
    w.Alike l w.scopes.length { w with client, journal := { w.journal with events } } where
  depth := rfl
  client := hc
  scopes := .refl ..
  events := he
  notes := List.forall₂_same.2 fun a _ => .refl _ a
  logs := rfl
  printed := rfl
  background := rfl
  defaultClient := rfl
  onRuntime := rfl
  now := rfl
  ids := rfl

/-- The worlds with other clients. -/
theorem withClient {l' : Likeness} {c c' : Client} (h : w.Alike l depth w')
    (hc : l'.client c c') (he : l'.events = l.events := by rfl)
    (ha : l'.apart = l.apart := by rfl) :
    { w with client := c }.Alike l' depth { w' with client := c' } :=
  { h with client := hc, scopes := ha ▸ h.scopes, events := he ▸ h.events, notes := ha ▸ h.notes }

theorem record (hk : l.Keeps) (h : w.Alike l depth w') (event : Event) :
    (w.record event).Alike l depth (w'.record event) := by
  have he := hk.record (w.scopes.length, event) h.events
  refine { h with events := ?_ }
  simp only [World.record, h.scopes.length]
  exact he

theorem sleep (h : w.Alike l depth w') (duration : Nat) :
    (w.sleep duration).Alike l depth (w'.sleep duration) := { h with }

/-! ## Calls of an engine -/

theorem connect (hk : l.Keeps) (h : w.Alike l depth w') : Agree l depth w.connect w'.connect := by
  obtain ⟨hr, hc⟩ := hk.connect h.client
  have hrec := (h.withClient hc).record hk (.connect w.client.connect.1)
  exact ⟨hr, by simpa only [World.connect, hr] using hrec⟩

theorem close (hk : l.Keeps) (h : w.Alike l depth w') : w.close.Alike l depth w'.close :=
  (h.withClient (hk.close h.client)).record hk .close

theorem fork (hk : l.Keeps) (h : w.Alike l depth w') : Agree l depth w.fork w'.fork := by
  obtain ⟨hr, hc⟩ := hk.fork h.client
  have hrec := (h.withClient hc).record hk (.fork w.client.fork.1)
  exact ⟨hr, by simpa only [World.fork, hr] using hrec⟩

theorem createTaskRun (hk : l.Keeps) (h : w.Alike l depth w') (request : TaskRunRequest) :
    Agree l depth (w.createTaskRun request) (w'.createTaskRun request) := by
  obtain ⟨hr, hc, hids⟩ := hk.createTaskRun w.ids request h.client
  have hcalled : { w with
      client := (w.client.createTaskRun w.ids request).2.1
      ids := (w.client.createTaskRun w.ids request).2.2 }.Alike l depth { w' with
      client := (w'.client.createTaskRun w.ids request).2.1
      ids := (w'.client.createTaskRun w.ids request).2.2 } := { h with client := hc, ids := hids }
  have hrec := hcalled.record hk (.createTaskRun request (w.client.createTaskRun w.ids request).1)
  simp only [Agree, World.createTaskRun, h.ids, hr]
  exact ⟨trivial, hrec⟩

theorem createFlowRun (hk : l.Keeps) (h : w.Alike l depth w') (request : FlowRunRequest) :
    Agree l depth (w.createFlowRun request) (w'.createFlowRun request) := by
  obtain ⟨hr, hc, hids⟩ := hk.createFlowRun w.ids w.now request h.client
  have hcalled : { w with
      client := (w.client.createFlowRun w.ids w.now request).2.1
      ids := (w.client.createFlowRun w.ids w.now request).2.2 }.Alike l depth { w' with
      client := (w'.client.createFlowRun w.ids w.now request).2.1
      ids := (w'.client.createFlowRun w.ids w.now request).2.2 } :=
    { h with client := hc, ids := hids }
  have hrec := hcalled.record hk
    (.createFlowRun request (w.client.createFlowRun w.ids w.now request).1)
  simp only [Agree, World.createFlowRun, h.ids, h.now, hr] at hrec ⊢
  exact ⟨trivial, hrec⟩

theorem propose (hk : l.Keeps) (ha : l.Answers) (h : w.Alike l depth w') (id : Uuid) (s : State) :
    Agree l depth (w.propose id s) (w'.propose id s) := by
  obtain ⟨hr, hc⟩ := ha w.now id s h.client
  have hrec := (h.withClient hc).record hk (.propose id s (w.client.propose w.now id s).1)
  simp only [Agree, World.propose, h.now, hr] at hrec ⊢
  exact ⟨trivial, hrec⟩

theorem settle (hk : l.Keeps) (h : w.Alike l depth w') {masked : Bool} {g g' : TaskGroup}
    (hg : g.Alike masked g') : (w.settle g).Alike l depth (w'.settle g') := by
  have hbackground : w'.journal.background ++ g'.effective =
      w.journal.background ++ g.effective := by rw [h.background, hg.effective]
  have hsettled : { w with
      clock := if g.isPrivate then w.clock else g.lastDue w.clock
      journal := { w.journal with background := w.journal.background ++ g.effective } }.Alike l
      depth { w' with
      clock := if g'.isPrivate then w'.clock else g'.lastDue w'.clock
      journal := { w'.journal with background := w'.journal.background ++ g'.effective } } :=
    { h with background := hbackground }
  have hrec := hsettled.record hk (.settle g.effective)
  simp only [World.settle, hg.effective] at hrec ⊢
  exact hrec

/-! ## Scopes -/

/-- The worlds with other innermost scopes. -/
theorem withScope {s s' scope scope' : Scope} {rest rest' : List Scope}
    (h : w.Alike l depth w') (hs : w.scopes = s :: rest) (hs' : w'.scopes = s' :: rest')
    (ha : scope.Alike (l.masks rest.length) scope') :
    (w.withScope scope).Alike l depth (w'.withScope scope') := by
  have hscopes := h.scopes
  rw [hs, hs'] at hscopes
  cases hscopes with
  | cons _ hrest =>
    refine { h with depth := ?_, scopes := ?_ }
    · simp only [World.withScope, hs, List.drop_one, List.tail_cons, ← h.depth, List.length_cons]
    · simp only [World.withScope, hs, hs', List.drop_one, List.tail_cons]
      exact .cons ha hrest

/-- Both worlds are outside of any run, or in runs whose scopes are alike. -/
theorem scopes_cases (h : w.Alike l depth w') : w.scopes = [] ∧ w'.scopes = [] ∨
    ∃ s s' rest rest', w.scopes = s :: rest ∧ w'.scopes = s' :: rest' ∧
      s.Alike (l.masks rest.length) s' := by
  have hscopes := h.scopes
  cases hs : w.scopes with
  | nil =>
    rw [hs] at hscopes
    generalize w'.scopes = ss at hscopes
    cases hscopes
    exact .inl ⟨rfl, rfl⟩
  | cons s rest =>
    rw [hs] at hscopes
    generalize w'.scopes = ss at hscopes
    cases hscopes with
    | cons ha _ => exact .inr ⟨s, _, rest, _, rfl, rfl, ha⟩

/-- The worlds in one more scope each. -/
theorem push {scope scope' : Scope} (h : w.Alike l depth w')
    (hs : scope.Alike (l.masks depth) scope') :
    { w with scopes := scope :: w.scopes }.Alike l (depth + 1)
      { w' with scopes := scope' :: w'.scopes } := by
  refine { h with depth := by rw [List.length_cons, h.depth], scopes := .cons ?_ h.scopes }
  rwa [h.depth]

/-- The worlds out of their innermost scopes. -/
theorem pop (h : w.Alike l (depth + 1) w') :
    Option.Rel (Scope.Alike (l.masks depth)) w.scopes.head? w'.scopes.head? ∧
      { w with scopes := w.scopes.tail }.Alike l depth { w' with scopes := w'.scopes.tail } := by
  obtain ⟨scope, rest, hs⟩ := List.exists_cons_of_length_eq_add_one h.depth
  have hscopes := h.scopes
  have hdepth := h.depth
  rw [hs] at hscopes hdepth
  rw [hs]
  generalize w'.scopes = ss at hscopes ⊢
  cases hscopes with
  | cons ha hrest =>
    rw [Nat.succ.inj hdepth] at ha
    exact ⟨.some ha, { h with depth := Nat.succ.inj hdepth, scopes := hrest }⟩

theorem report (hk : l.Keeps) (h : w.Alike l depth w') (s : State) :
    (w.report s).Alike l depth (w'.report s) := by
  rcases h.scopes_cases with ⟨hs, hs'⟩ | ⟨scope, scope', rest, rest', hs, hs', ha⟩
  · simpa only [World.report, hs, hs'] using h
  · have hchild : (scope.recordChild s).Alike (l.masks rest.length) (scope'.recordChild s) := by
      cases ha with
      | mk hmode hgroup => exact .mk (s := scope.recordChild s) hmode hgroup
    have hrec := (h.withScope hs hs' hchild).record hk (.report s)
    simpa only [World.report, World.withScope, hs, hs', List.drop_one, List.tail_cons] using hrec

end Alike

end World

/-! ## Actions of a body -/

/-- Whether an action is a proposal. -/
def Action.proposes : Action → Bool
  | propose _ => true
  | _ => false

namespace World.Alike

variable {l : Likeness} {depth : Nat} {w w' : World}

theorem inScope {α : Type} {act act' : Scope → α × World} (h : w.Alike l depth w')
    (ha : ∀ s s' rest rest', w.scopes = s :: rest → w'.scopes = s' :: rest' →
      s.Alike (l.masks rest.length) s' →
      Agree l depth (act s) (act' s')) : Agree l depth (w.inScope act) (w'.inScope act') := by
  rcases h.scopes_cases with ⟨hs, hs'⟩ | ⟨s, s', rest, rest', hs, hs', hscope⟩
  · simp only [World.inScope, hs, hs']
    exact ⟨rfl, h⟩
  · obtain ⟨hr, hv⟩ := ha s s' rest rest' hs hs' hscope
    simp only [World.inScope, hs, hs', hr]
    exact ⟨rfl, hv⟩

theorem addLog (h : w.Alike l depth w') {masked : Bool} {s s' : Scope} (hs : s.Alike masked s')
    (level : LogLevel) (message : String) :
    (w.addLog s level message).Alike l depth (w'.addLog s' level message) := by
  cases hs with
  | mk => exact { h with logs := by simp only [World.addLog, h.logs] }

theorem addNote (h : w.Alike l depth w') {a b : Note} (ha : a.Alike l.apart b) :
    (w.addNote a).Alike l depth (w'.addNote b) :=
  { h with notes := List.rel_append h.notes (.cons ha .nil) }

theorem print (h : w.Alike l depth w') (message : String) :
    (w.print message).Alike l depth (w'.print message) :=
  { h with printed := by simp only [World.print, h.printed] }

/-- **A body is told the same in both worlds**, whatever it does. -/
theorem perform (action : Action) (ha : action.proposes → l.Answers)
    (h : w.Alike l depth w') : Agree l depth (w.perform action) (w'.perform action) := by
  cases action with
  | log level message => exact h.inScope fun _ _ _ _ _ _ hs => ⟨rfl, h.addLog hs level message⟩
  | print message =>
    refine h.inScope fun s s' _ _ _ _ hs => ⟨rfl, ?_⟩
    have hprints : s'.flow.logPrints = s.flow.logPrints := by cases hs; rfl
    simp only [hprints]
    split
    · exact h.addLog hs .info message
    · exact h.print message
  | look =>
    refine h.inScope fun s s' _ _ _ _ hs => ⟨?_, h⟩
    cases hs
    rfl
  | snapshot => exact h.inScope fun _ _ _ _ _ _ _ => ⟨rfl, h.addNote (.scopes h.scopes)⟩
  | note value => exact ⟨rfl, h.addNote (.value value)⟩
  | dynamicKey taskKey =>
    refine h.inScope fun s s' _ _ hs hs' hscope => ?_
    obtain ⟨hkey, hnext⟩ := hscope.nextDynamicKey taskKey
    exact ⟨hkey, h.withScope hs hs' hnext⟩
  | spawn name delay panics spawns =>
    refine h.inScope fun s s' _ _ hs hs' hscope => ⟨rfl, h.withScope hs hs' ?_⟩
    let plan : TaskPlan := { name, delay, panics, spawns }
    cases hscope with
    | mk hmode hgroup =>
      exact .mk (s := { s with group := s.group.spawn (plan.begun w.clock) }) hmode
        (hgroup.spawn plan ..)
  | sleep duration => exact ⟨rfl, h.sleep duration⟩
  | occupy => exact ⟨rfl, h⟩
  | propose state =>
    refine h.inScope fun s s' _ _ _ _ hs => ?_
    obtain ⟨hr, hc⟩ := ha rfl w.now s.runId state h.client
    have hproposed := h.withClient hc
    simp only [h.now, hs.runId] at hproposed ⊢
    exact ⟨hr, hproposed⟩

end World.Alike

/-! ## Bounds -/

namespace Likeness

variable {l : Likeness} {F : Nat → Nat → Prop}

/-- Where each proposal is answered the same, so is one that is made until it is decided about. -/
theorem Keeps.follows (hk : l.Keeps) (ha : l.Answers)
    (fuel : ∀ {n n' : Nat}, F (n + 1) n' → ∃ m, n' = m + 1 ∧ F n m) : l.Follows F where
  toKeeps := hk
  fuel := fuel
  propose {depth n n' w w' v id s r} hF hw h := by
    induction n generalizing n' w w' with
    | zero => simp [Engine.proposeUntilAnswered] at h
    | succ n ih =>
      obtain ⟨m, rfl, hm⟩ := fuel hF
      simp only [Engine.proposeUntilAnswered] at h ⊢
      split at h <;> rename_i heq <;>
        obtain ⟨v', heq', hv⟩ := (hw.propose hk ha id s).exists heq <;> rw [heq']
      case h_3 => exact ih hm (hv.sleep _) h
      all_goals
        cases h
        exact ⟨v', rfl, hv⟩

/-- Where each proposal is answered the same, the two executions may have the same bound. -/
theorem Keeps.follows_eq (hk : l.Keeps) (ha : l.Answers) : l.Follows Eq :=
  hk.follows ha fun h => ⟨_, h.symm, rfl⟩

theorem Follows.exact (h : l.Follows F) : l.exact.Follows F :=
  h.toKeeps.exact.follows l.answers_exact h.fuel

end Likeness

end RunEngine
