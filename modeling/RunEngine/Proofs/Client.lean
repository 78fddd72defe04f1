import RunEngine.Client.Basic
import RunEngine.Proofs.Store

/-!
# What calls do to a client

A client in memory takes its answers from a script as long as there is one, and from its
orchestrator after that. `Becomes` says what any calls leave of a client: its scripts get shorter,
its log of calls longer, and its store becomes what the proposals that got through make of it.

`Holds` is the view of a client without scripts that the theorems about whole runs are stated in:
the run that is stored under an identifier, and the types of all states proposed for it. A proposal
is answered by the rules alone (`Holds.propose`), and other calls change what is held only by what
they propose for the run (`Holds.becomes`).

`patience` bounds how often a client can ask for a proposal to be made again: only prepared answers
do that, and each is used once.
-/

namespace RunEngine

/-- The state that a call proposes, and the run it is for. -/
def Call.proposal? : Call → Option (Uuid × State)
  | propose id state => some (id, state)
  | _ => none

/-! ## Clients in memory -/

namespace LocalClient

variable {a b c : LocalClient} {time : Timestamp}

/-- No call is answered by a script. -/
structure Unscripted (c : LocalClient) : Prop where
  connects : c.connects = []
  creations : c.creations = []
  answers : c.answers = []
  taskCreations : c.taskCreations = []
  forkError : c.forkError = none

/-- What a client becomes when it is called any number of times. -/
structure Becomes (time : Timestamp) (a b : LocalClient) : Prop where
  connects : b.connects <:+ a.connects
  creations : b.creations <:+ a.creations
  answers : b.answers <:+ a.answers
  taskCreations : b.taskCreations <:+ a.taskCreations
  forkError : b.forkError = a.forkError
  /-- Without a script, every proposal gets through to the store. -/
  store : ∃ calls made, b.calls = a.calls ++ calls ∧
    a.orchestrator.Becomes time made b.orchestrator ∧
    (a.answers = [] → made = calls.filterMap Call.proposal?)

theorem suffix_take {α : Type} (script : Script α) : script.take.2 <:+ script := by
  cases script with
  | nil => exact List.suffix_refl _
  | cons answer rest => exact List.suffix_cons _ _

namespace Becomes

theorem refl (time : Timestamp) (c : LocalClient) : c.Becomes time c where
  connects := List.suffix_refl _
  creations := List.suffix_refl _
  answers := List.suffix_refl _
  taskCreations := List.suffix_refl _
  forkError := rfl
  store := ⟨[], [], by simp, .refl .., fun _ => rfl⟩

theorem trans (h : a.Becomes time b) (h' : b.Becomes time c) : a.Becomes time c where
  connects := h'.connects.trans h.connects
  creations := h'.creations.trans h.creations
  answers := h'.answers.trans h.answers
  taskCreations := h'.taskCreations.trans h.taskCreations
  forkError := h'.forkError.trans h.forkError
  store := by
    obtain ⟨calls, made, hc, hs, hm⟩ := h.store
    obtain ⟨calls', made', hc', hs', hm'⟩ := h'.store
    refine ⟨calls ++ calls', made ++ made', by rw [hc', hc, List.append_assoc], hs.trans hs',
      fun ha => ?_⟩
    have hb : b.answers = [] := List.suffix_nil.1 (ha ▸ h.answers)
    rw [hm ha, hm' hb, List.filterMap_append]

theorem unscripted (h : a.Becomes time b) (ha : a.Unscripted) : b.Unscripted where
  connects := List.suffix_nil.1 (ha.connects ▸ h.connects)
  creations := List.suffix_nil.1 (ha.creations ▸ h.creations)
  answers := List.suffix_nil.1 (ha.answers ▸ h.answers)
  taskCreations := List.suffix_nil.1 (ha.taskCreations ▸ h.taskCreations)
  forkError := h.forkError.trans ha.forkError

end Becomes

theorem becomes_connect (c : LocalClient) (time : Timestamp) : c.Becomes time c.connect.2 := by
  have hs := suffix_take c.connects
  simp only [connect, note]
  split <;> rename_i ht <;> rw [ht] at hs
  · exact { Becomes.refl time c with
      connects := hs, store := ⟨[.connect], [], rfl, .refl .., fun _ => rfl⟩ }
  · exact { Becomes.refl time c with
      connects := hs
      store := ⟨[.connect], [], rfl, Orchestrator.becomes_connect .., fun _ => rfl⟩ }

theorem becomes_close (c : LocalClient) (time : Timestamp) : c.Becomes time c.close :=
  { Becomes.refl time c with
    store := ⟨[.close], [], rfl, Orchestrator.becomes_close .., fun _ => rfl⟩ }

theorem becomes_fork (c : LocalClient) (time : Timestamp) : c.Becomes time c.fork.2 := by
  simp only [fork, note]
  split <;> exact { Becomes.refl time c with
    store := ⟨[.fork], [], rfl, .refl .., fun _ => rfl⟩ }

theorem becomes_createFlowRun (c : LocalClient) (ids : IdSupply) (time : Timestamp)
    (request : FlowRunRequest) : c.Becomes time (c.createFlowRun ids time request).2.1 := by
  have hs := suffix_take c.creations
  simp only [createFlowRun, note]
  split <;> rename_i ht <;> rw [ht] at hs
  · exact { Becomes.refl time c with
      creations := hs, store := ⟨[.createFlowRun request], [], rfl, .refl .., fun _ => rfl⟩ }
  · exact { Becomes.refl time c with
      creations := hs
      store := ⟨[.createFlowRun request], [], rfl, Orchestrator.becomes_createFlowRun ..,
        fun _ => rfl⟩ }

theorem becomes_createTaskRun (c : LocalClient) (ids : IdSupply) (time : Timestamp)
    (request : TaskRunRequest) : c.Becomes time (c.createTaskRun ids request).2.1 := by
  have hs := suffix_take c.taskCreations
  simp only [createTaskRun, note]
  split <;> rename_i ht <;> rw [ht] at hs
  · exact { Becomes.refl time c with
      taskCreations := hs, store := ⟨[.createTaskRun request], [], rfl, .refl .., fun _ => rfl⟩ }
  · exact { Becomes.refl time c with
      taskCreations := hs
      store := ⟨[.createTaskRun request], [], rfl, Orchestrator.becomes_createTaskRun ..,
        fun _ => rfl⟩ }

theorem becomes_propose (c : LocalClient) (time : Timestamp) (id : Uuid) (s : State) :
    c.Becomes time (c.propose time id s).2 := by
  have hs := suffix_take c.answers
  simp only [propose, note]
  split <;> rename_i ht <;> rw [ht] at hs
  · refine { Becomes.refl time c with
      answers := hs, store := ⟨[.propose id s], [], rfl, .refl .., fun ha => ?_⟩ }
    simp [ha, Script.take] at ht
  · exact { Becomes.refl time c with
      answers := hs
      store := ⟨[.propose id s], [(id, s)], rfl, Orchestrator.becomes_propose .., fun _ => rfl⟩ }

end LocalClient

/-! ## Clients of a remote API -/

namespace RemoteClient

variable (c : RemoteClient) (method path : String) (body : Option Json)

theorem replies_exchange : (c.exchange method path body).2.peer.replies <:+ c.peer.replies := by
  unfold exchange
  split
  · exact List.suffix_refl _
  · split
    · exact List.suffix_refl _
    · simp only [Http.Peer.exchange]
      split
      · exact List.nil_suffix
      · rename_i reply rest hs
        rw [hs]
        exact List.suffix_cons _ _

/-- Only a peer with replies left sends a response that is a success. -/
theorem replies_of_isSuccess {response : Http.Response}
    (h : (c.exchange method path body).1 = .ok response) (hs : response.isSuccess) :
    (c.exchange method path body).2.peer.replies.length < c.peer.replies.length := by
  unfold exchange at h ⊢
  split at h
  · cases h
  · split at h
    · cases h
    · rename_i ha hserves
      simp only [hserves, Http.Peer.exchange] at h ⊢
      cases hr : c.peer.replies with
      | nil =>
        simp only [hr, Http.Peer.exhausted, Http.Response.bodiless] at h
        cases h
        simp [Http.Response.isSuccess] at hs
      | cons reply rest => simp

theorem replies_send : (c.send method path body).2.peer.replies <:+ c.peer.replies := by
  have h := replies_exchange c method path body
  unfold send
  split <;> rename_i heq <;> rw [heq] at h
  · exact h
  · split <;> exact h

theorem replies_of_send_ok {response : Http.Response}
    (h : (c.send method path body).1 = .ok response) :
    (c.send method path body).2.peer.replies.length < c.peer.replies.length := by
  have hx := @replies_of_isSuccess c method path body
  unfold send at h ⊢
  split at h
  · cases h
  · rename_i heq
    split at h
    · rename_i hs
      simp only [heq] at hx
      simpa only [heq, hs, if_true] using hx rfl hs
    · cases h

theorem replies_call {α : Type} (decoder : Decoder α) :
    (c.call decoder method path body).2.peer.replies <:+ c.peer.replies := by
  have h := replies_send c method path body
  simp only [call]
  exact h

/-- Every record that a remote API answers with uses up one of the replies that are left. -/
theorem replies_of_call_ok {α : Type} (decoder : Decoder α) {value : α}
    (h : (c.call decoder method path body).1 = .ok value) :
    (c.call decoder method path body).2.peer.replies.length < c.peer.replies.length := by
  have hs := @replies_of_send_ok c method path body
  simp only [call] at h ⊢
  cases hr : (c.send method path body).1 with
  | error error =>
    rw [hr] at h
    cases h
  | ok response => exact hs hr

theorem replies_createFlowRun (request : FlowRunRequest) :
    (c.createFlowRun request).2.peer.replies <:+ c.peer.replies := by
  rw [createFlowRun]
  exact c.replies_call ..

theorem replies_createTaskRun (request : TaskRunRequest) :
    (c.createTaskRun request).2.peer.replies <:+ c.peer.replies := by
  rw [createTaskRun]
  exact c.replies_call ..

theorem replies_propose (id : Uuid) (s : State) :
    (c.propose id s).2.peer.replies <:+ c.peer.replies := by
  rw [propose]
  exact c.replies_call ..

theorem replies_connect : c.connect.2.peer.replies <:+ c.peer.replies := by
  have h := replies_send c "GET" "/health" none
  unfold connect
  split <;> rename_i heq <;> rw [heq] at h <;> exact h

end RemoteClient

/-! ## Clients -/

namespace Client

variable {a b c : Client} {time : Timestamp} {hold : Nat} {id : Uuid} {r : StoredRun} {s : State}
  {log : List StateType}

/-- What a client becomes when it is called any number of times. Of a remote API no more is known
than that it has fewer replies left. -/
inductive Becomes (time : Timestamp) : Client → Client → Prop
  | inMemory {a b : LocalClient} : a.Becomes time b → Becomes time (.inMemory a) (.inMemory b)
  | remote {a b : RemoteClient} : b.peer.replies <:+ a.peer.replies →
      Becomes time (.remote a) (.remote b)

theorem Becomes.refl (time : Timestamp) (c : Client) : c.Becomes time c := by
  cases c with
  | inMemory c => exact .inMemory (.refl ..)
  | remote c => exact .remote (List.suffix_refl _)

theorem Becomes.trans (h : a.Becomes time b) (h' : b.Becomes time c) : a.Becomes time c := by
  cases h with
  | inMemory h =>
    cases h' with
    | inMemory h' => exact .inMemory (h.trans h')
  | remote h =>
    cases h' with
    | remote h' => exact .remote (h'.trans h)

theorem becomes_connect (c : Client) (time : Timestamp) : c.Becomes time c.connect.2 := by
  cases c with
  | inMemory c => exact .inMemory (c.becomes_connect time)
  | remote c =>
    simp only [connect]
    exact .remote c.replies_connect

theorem becomes_close (c : Client) (time : Timestamp) : c.Becomes time c.close := by
  cases c with
  | inMemory c => exact .inMemory (c.becomes_close time)
  | remote c => exact .refl ..

theorem becomes_fork (c : Client) (time : Timestamp) : c.Becomes time c.fork.2 := by
  cases c with
  | inMemory c => exact .inMemory (c.becomes_fork time)
  | remote c => exact .refl ..

theorem becomes_createFlowRun (c : Client) (ids : IdSupply) (time : Timestamp)
    (request : FlowRunRequest) : c.Becomes time (c.createFlowRun ids time request).2.1 := by
  cases c with
  | inMemory c => exact .inMemory (c.becomes_createFlowRun ids time request)
  | remote c =>
    simp only [createFlowRun]
    exact .remote (c.replies_createFlowRun request)

theorem becomes_createTaskRun (c : Client) (ids : IdSupply) (time : Timestamp)
    (request : TaskRunRequest) : c.Becomes time (c.createTaskRun ids request).2.1 := by
  cases c with
  | inMemory c => exact .inMemory (c.becomes_createTaskRun ids time request)
  | remote c =>
    simp only [createTaskRun]
    exact .remote (c.replies_createTaskRun request)

theorem becomes_propose (c : Client) (time : Timestamp) (id : Uuid) (s : State) :
    c.Becomes time (c.propose time id s).2 := by
  cases c with
  | inMemory c => exact .inMemory (c.becomes_propose time id s)
  | remote c =>
    simp only [propose]
    exact .remote (c.replies_propose id s)

/-! ## What an orchestrator in memory holds -/

/-- The orchestrator in memory that a client asks. -/
def orchestrator? : Client → Option Orchestrator
  | inMemory c => some c.orchestrator
  | remote _ => none

/-- The calls of a client in memory so far. -/
def calls : Client → List Call
  | inMemory c => c.calls
  | remote _ => []

/-- The run that a client in memory has stored under an identifier. -/
def stored? : Client → Uuid → Option StoredRun
  | inMemory c, id => c.orchestrator.find? id
  | remote _, _ => none

/-- The states proposed for a run between two moments of a client, in order. -/
def statesSince (before after : Client) (id : Uuid) : List State :=
  statesFor id ((after.calls.drop before.calls.length).filterMap Call.proposal?)

theorem statesSince_self (c : Client) (id : Uuid) : c.statesSince c id = [] := by
  simp [statesSince]

/-- The client decides by the rules of an orchestrator in memory alone, which holds `hold` proposals
to run back. It has stored the run `r` under `id`, and states of the types `log` were proposed for
it. -/
def Holds (client : Client) (hold : Nat) (id : Uuid) (r : StoredRun) (log : List StateType) :
    Prop :=
  ∃ c : LocalClient, client = .inMemory c ∧ c.Unscripted ∧ c.orchestrator.hold = hold ∧
    c.orchestrator.find? id = some r ∧ c.orchestrator.proposals id = log

theorem Holds.stored? (h : a.Holds hold id r log) : a.stored? id = some r := by
  obtain ⟨c, rfl, -, -, hf, -⟩ := h
  exact hf

theorem Holds.becomes (h : a.Becomes time b) (ha : a.Holds hold id r log) :
    b.Holds hold id (r.replay hold time (a.statesSince b id))
      (log ++ (a.statesSince b id).map State.type) := by
  obtain ⟨c, rfl, hu, rfl, hf, rfl⟩ := ha
  cases h with
  | @inMemory _ d h =>
    obtain ⟨calls, made, hc, hs, hm⟩ := h.store
    have hsince : (inMemory c).statesSince (.inMemory d) id = statesFor id made := by
      simp only [statesSince, Client.calls, hc, List.drop_left, hm hu.answers]
    rw [hsince]
    exact ⟨d, rfl, h.unscripted hu, hs.hold, hs.found hf, hs.proposals id⟩

theorem Holds.propose (h : a.Holds hold id r log) :
    (a.propose time id s).1 = .ok (r.judge hold time s).1 ∧
      (a.propose time id s).2.Holds hold id (r.judge hold time s).2 (log ++ [s.type]) := by
  have hb := Holds.becomes (a.becomes_propose time id s) h
  obtain ⟨c, rfl, hu, rfl, hf, rfl⟩ := h
  have hsince : (inMemory c).statesSince ((inMemory c).propose time id s).2 id = [s] := by
    simp [statesSince, Client.calls, Client.propose, LocalClient.propose, LocalClient.note,
      Script.take, hu.answers, Call.proposal?, statesFor_self]
  rw [hsince] at hb
  refine ⟨?_, hb⟩
  simp only [Client.propose, LocalClient.propose, LocalClient.note, Script.take, hu.answers]
  rw [Orchestrator.propose_of_find? hf]

theorem Holds.close (h : a.Holds hold id r log) : a.close.Holds hold id r log := by
  obtain ⟨c, rfl, hu, rfl, hf, rfl⟩ := h
  exact ⟨c.close, rfl, (c.becomes_close default).unscripted hu, rfl, hf, rfl⟩

/-! ## Patience -/

/-- How many prepared answers to proposals are left. -/
def patience : Client → Nat
  | inMemory c => c.answers.length
  | remote c => c.peer.replies.length

theorem Becomes.patience_le (h : a.Becomes time b) : b.patience ≤ a.patience := by
  cases h with
  | inMemory h => exact h.answers.length_le
  | remote h => exact h.length_le

/-- To ask for a proposal to be made again takes a prepared answer. -/
theorem patience_lt_of_wait {delay : Binary64} {reason : String}
    (h : (c.propose time id s).1 = .ok (.wait delay reason)) :
    (c.propose time id s).2.patience < c.patience := by
  cases c with
  | inMemory c =>
    simp only [propose, LocalClient.propose, LocalClient.note] at h ⊢
    cases ha : c.answers with
    | nil =>
      simp only [ha, Script.take, Orchestrator.propose] at h
      split at h
      · cases h
      · rename_i r _
        have hr := @StoredRun.recorded?_judge c.orchestrator.hold time r s
        rw [Except.ok.inj h] at hr
        cases hr
    | cons answer rest =>
      cases answer <;> simp [patience, ha, Script.take]
  | remote c =>
    simp only [propose, RemoteClient.propose, patience] at h ⊢
    exact c.replies_of_call_ok _ _ _ _ h

end Client

end RunEngine
