import RunEngine.Proofs.Client
import RunEngine.World

/-!
# What a client gets to hear

The journal tells what engines did, and it is the engines that write it. That their client was
called is a fact about the client: `Client.Handles` takes a client through a list of events, and
each that is a call is made on it and answered as the event tells.

A client in memory keeps a record of its own, a log of its calls and the number of connections and
closes in its orchestrator. **What it has on record are the calls of the events**, in order
(`Client.Handles.exists_tallies`). Of a remote API no record is kept here.
-/

namespace RunEngine

namespace Event

/-- The call of a client that an event is. -/
def call? : Event → Option Call
  | connect _ => some .connect
  | createTaskRun request _ => some (.createTaskRun request)
  | createFlowRun request _ => some (.createFlowRun request)
  | propose id state _ => some (.propose id state)
  | close => some .close
  | fork _ => some .fork
  | invoke _ | returned _ | settle _ | report _ => none

/-- Whether a client was connected. -/
def opens : Event → Bool
  | connect (.ok ()) => true
  | _ => false

/-- Whether a client was closed. -/
def closes : Event → Bool
  | close => true
  | _ => false

/-- Only calls open or close a client. -/
theorem turns_of_call? {e : Event} (h : e.call? = none) : e.opens = false ∧ e.closes = false := by
  cases e with
  | invoke | returned | settle | report => exact ⟨rfl, rfl⟩
  | _ => cases h

end Event

/-! ## Calls and answers -/

namespace Client

variable {a b c : Client} {events events' : List Event} {event : Event}

/-- The client `b` is what becomes of `a` when the event takes place: if it is a call then `a` is
called, and gives the answer that the event tells. -/
inductive Hears : Client → Event → Client → Prop
  | connect (a : Client) : Hears a (.connect a.connect.1) a.connect.2
  | close (a : Client) : Hears a .close a.close
  | fork (a : Client) : Hears a (.fork a.fork.1) a.fork.2
  | createTaskRun (a : Client) (ids : IdSupply) (request : TaskRunRequest) :
      Hears a (.createTaskRun request (a.createTaskRun ids request).1)
        (a.createTaskRun ids request).2.1
  | createFlowRun (a : Client) (ids : IdSupply) (time : Timestamp) (request : FlowRunRequest) :
      Hears a (.createFlowRun request (a.createFlowRun ids time request).1)
        (a.createFlowRun ids time request).2.1
  | propose (a : Client) (time : Timestamp) (id : Uuid) (s : State) :
      Hears a (.propose id s (a.propose time id s).1) (a.propose time id s).2
  | aside {a : Client} {event : Event} : event.call? = none → Hears a event a

/-- The client `b` is what becomes of `a` when the events take place, one after the other. -/
inductive Handles : Client → List Event → Client → Prop
  | nil {a : Client} : Handles a [] a
  | cons {a b c : Client} {event : Event} {events : List Event} : a.Hears event b →
      Handles b events c → Handles a (event :: events) c

theorem Hears.handles (h : a.Hears event b) : a.Handles [event] b := .cons h .nil

theorem Handles.trans (h : a.Handles events b) (h' : b.Handles events' c) :
    a.Handles (events ++ events') c := by
  induction h with
  | nil => exact h'
  | cons hears _ ih => exact .cons hears (ih h')

end Client

/-! ## The record of a client in memory -/

namespace Orchestrator

variable {o : Orchestrator}

theorem counts_propose (o : Orchestrator) (time : Timestamp) (id : Uuid) (s : State) :
    (o.propose time id s).2.connects = o.connects ∧ (o.propose time id s).2.closes = o.closes := by
  unfold propose
  dsimp only
  split <;> exact ⟨rfl, rfl⟩

theorem counts_createTaskRun (o : Orchestrator) (id : Uuid) (request : TaskRunRequest) :
    (o.createTaskRun id request).2.connects = o.connects ∧
      (o.createTaskRun id request).2.closes = o.closes := by
  unfold createTaskRun
  split <;> exact ⟨rfl, rfl⟩

end Orchestrator

namespace LocalClient

variable {a b c : LocalClient} {events events' : List Event} {event : Event}

/-- Between `a` and `b` the client has put the events on record: every call is in its log, and its
orchestrator has counted the closes, and the connections too unless a script answers for it. -/
structure Tallies (a : LocalClient) (events : List Event) (b : LocalClient) : Prop where
  calls : b.calls = a.calls ++ events.filterMap Event.call?
  closes : b.orchestrator.closes = a.orchestrator.closes + events.countP Event.closes
  connects : a.connects = [] → b.connects = [] ∧
    b.orchestrator.connects = a.orchestrator.connects + events.countP Event.opens

theorem Tallies.nil (a : LocalClient) : a.Tallies [] a :=
  ⟨(List.append_nil _).symm, rfl, fun h => ⟨h, rfl⟩⟩

theorem Tallies.trans (h : a.Tallies events b) (h' : b.Tallies events' c) :
    a.Tallies (events ++ events') c where
  calls := by rw [h'.calls, h.calls, List.filterMap_append, List.append_assoc]
  closes := by rw [h'.closes, h.closes, List.countP_append, Nat.add_assoc]
  connects ha := by
    obtain ⟨hb, hconnects⟩ := h.connects ha
    obtain ⟨hc, hconnects'⟩ := h'.connects hb
    exact ⟨hc, by rw [hconnects', hconnects, List.countP_append, Nat.add_assoc]⟩

/-- A call that neither opens nor closes the client. -/
theorem tallies_of_turns {call : Call} (hcall : event.call? = some call)
    (hopens : event.opens = false) (hcloses : event.closes = false)
    (hcalls : b.calls = a.calls ++ [call]) (hscript : b.connects = a.connects)
    (hcounts : b.orchestrator.connects = a.orchestrator.connects ∧
      b.orchestrator.closes = a.orchestrator.closes) : a.Tallies [event] b where
  calls := by rw [hcalls, List.filterMap_cons, hcall, List.filterMap_nil]
  closes := by rw [hcounts.2, List.countP_singleton, hcloses]; rfl
  connects ha := ⟨hscript.trans ha, by rw [hcounts.1, List.countP_singleton, hopens]; rfl⟩

theorem tallies_connect (a : LocalClient) : a.Tallies [.connect a.connect.1] a.connect.2 := by
  have hcalls : a.connect.2.calls = a.calls ++ [.connect] := by
    unfold connect
    dsimp only
    split <;> rfl
  have hcloses : a.connect.2.orchestrator.closes = a.orchestrator.closes := by
    unfold connect Orchestrator.connect
    dsimp only
    split
    · rfl
    · split <;> rfl
  refine ⟨hcalls, hcloses, fun ha => ?_⟩
  simp only [connect, note, ha, Script.take, Orchestrator.connect]
  split <;> exact ⟨trivial, rfl⟩

theorem tallies_close (a : LocalClient) : a.Tallies [.close] a.close :=
  ⟨rfl, rfl, fun ha => ⟨ha, rfl⟩⟩

theorem tallies_fork (a : LocalClient) : a.Tallies [.fork a.fork.1] a.fork.2 := by
  unfold fork
  dsimp only
  split <;> exact tallies_of_turns rfl rfl rfl rfl rfl ⟨rfl, rfl⟩

theorem tallies_createTaskRun (a : LocalClient) (ids : IdSupply) (request : TaskRunRequest) :
    a.Tallies [.createTaskRun request (a.createTaskRun ids request).1]
      (a.createTaskRun ids request).2.1 := by
  unfold createTaskRun
  dsimp only
  split
  · exact tallies_of_turns rfl rfl rfl rfl rfl ⟨rfl, rfl⟩
  · exact tallies_of_turns rfl rfl rfl rfl rfl (Orchestrator.counts_createTaskRun ..)

theorem tallies_createFlowRun (a : LocalClient) (ids : IdSupply) (time : Timestamp)
    (request : FlowRunRequest) :
    a.Tallies [.createFlowRun request (a.createFlowRun ids time request).1]
      (a.createFlowRun ids time request).2.1 := by
  unfold createFlowRun
  dsimp only
  split <;> exact tallies_of_turns rfl rfl rfl rfl rfl ⟨rfl, rfl⟩

theorem tallies_propose (a : LocalClient) (time : Timestamp) (id : Uuid) (s : State) :
    a.Tallies [.propose id s (a.propose time id s).1] (a.propose time id s).2 := by
  unfold propose
  dsimp only
  split
  · exact tallies_of_turns rfl rfl rfl rfl rfl ⟨rfl, rfl⟩
  · exact tallies_of_turns rfl rfl rfl rfl rfl (Orchestrator.counts_propose ..)

end LocalClient

namespace Client

variable {a : LocalClient} {b : Client} {events : List Event} {event : Event}

theorem Hears.exists_tallies (h : (inMemory a).Hears event b) :
    ∃ c, b = .inMemory c ∧ a.Tallies [event] c := by
  cases h with
  | connect => exact ⟨_, rfl, a.tallies_connect⟩
  | close => exact ⟨_, rfl, a.tallies_close⟩
  | fork => exact ⟨_, rfl, a.tallies_fork⟩
  | createTaskRun ids request => exact ⟨_, rfl, a.tallies_createTaskRun ids request⟩
  | createFlowRun ids time request => exact ⟨_, rfl, a.tallies_createFlowRun ids time request⟩
  | propose time id s => exact ⟨_, rfl, a.tallies_propose time id s⟩
  | aside hcall =>
    obtain ⟨hopens, hcloses⟩ := Event.turns_of_call? hcall
    exact ⟨a, rfl, by simp [hcall], by simp [hcloses], fun h => ⟨h, by simp [hopens]⟩⟩

/-- **The calls that a client in memory was made are those that it has on record.** -/
theorem Handles.exists_tallies (h : (inMemory a).Handles events b) :
    ∃ c, b = .inMemory c ∧ a.Tallies events c := by
  generalize ha : inMemory a = before at h
  induction h generalizing a with
  | nil => exact ⟨a, ha.symm, .nil a⟩
  | cons hears _ ih =>
    subst ha
    obtain ⟨middle, rfl, hfirst⟩ := hears.exists_tallies
    obtain ⟨c, hc, hrest⟩ := ih rfl
    exact ⟨c, hc, hfirst.trans hrest⟩

end Client

end RunEngine
