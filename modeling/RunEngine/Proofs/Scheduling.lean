import RunEngine.Proofs.Client
import RunEngine.Proofs.Counterpart
import RunEngine.Proofs.Simulation

/-!
# Waiting on the runtime or blocking

A caller may wait for a run on the runtime it is on, or block its thread until the run is over. What
comes of the run is the same. When the thread that is blocked belongs to a runtime, the run is
driven elsewhere with a fork of the client, and the fork is all that there is more of in the log of
the client and in the journal (`World.forked`). A client that cannot be forked gets no other call.

The two runs are followed side by side as in `Program.exists_run_alike`, with engines that are apart
in how their callers wait. This serves for both directions, so neither run comes to an end without
the other.

Main result: **`runFlow_entries`**.
-/

namespace RunEngine

/-! ## Clients -/

/-- How a client in memory answers a proposal does not depend on its log. -/
theorem LocalClient.propose_withCalls (c : LocalClient) (calls : List Call) (time : Timestamp)
    (id : Uuid) (s : State) : { c with calls }.propose time id s =
      ((c.propose time id s).1, { (c.propose time id s).2 with
        calls := calls ++ [.propose id s], answers := (c.propose time id s).2.answers }) := by
  simp only [propose, note]
  split <;> rfl

namespace Client

/-- The clients are the same, up to their logs. -/
def SameButLog : Client → Client → Prop :=
  Apart (fun _ answers _ answers' => answers' = answers) True

/-- The clients are the same, but the second one has got the calls `added` besides, after the calls
`before`. -/
def Inserts (before added : List Call) : Client → Client → Prop :=
  Apart (fun calls answers calls' answers' => answers' = answers ∧
    ∃ later, calls = before ++ later ∧ calls' = before ++ (added ++ later)) True

variable {before added : List Call} {c c' : Client}

theorem SameButLog.symm (h : c.SameButLog c') : c'.SameButLog c := Apart.symm Eq.symm h

theorem Inserts.sameButLog (h : Inserts before added c c') : c.SameButLog c' :=
  Apart.mono And.left id h

theorem inserts_nil (c : Client) : Inserts c.calls [] c c := by
  cases c with
  | inMemory c => exact .inMemory c ⟨rfl, [], by simp [calls], by simp [calls]⟩
  | remote c => exact .remote c trivial

theorem inserts_fork (hf : c.fork.1 = .ok ()) : Inserts c.calls [.fork] c c.fork.2 := by
  cases c with
  | inMemory c =>
    have hnote : c.fork.2 = { c with calls := c.calls ++ [.fork], answers := c.answers } := by
      simp only [LocalClient.fork, LocalClient.note]
      split <;> rfl
    simp only [fork, hnote]
    exact .inMemory c ⟨rfl, [], by simp [calls], by simp [calls]⟩
  | remote c => exact .remote c trivial

end Client

/-- Either both runs come to an end, with the same outcome, or neither does. -/
theorem Engine.rel_execute {l : Likeness} {depth limit : Nat} {body body' : Invoke}
    {options : RunOptions} {e e' : Engine} {w w' : World} (hk : l.Keeps) (ha : l.Answers)
    (hb : body.Follows l body') (hback : body'.Follows l.flip body)
    (he : e.Alike (l.masks depth) e') (hw : w.Alike l depth w') :
    Option.Rel (fun x y => y.1 = x.1 ∧ x.2.Alike l depth y.2) (e.execute limit body options w)
      (e'.execute limit body' options w') := by
  cases h : e.execute limit body options w with
  | some x =>
    obtain ⟨left', h', hleft⟩ := exists_execute_alike (hk.follows_eq ha) rfl hb he hw h
    rw [h']
    exact .some ⟨rfl, hleft⟩
  | none =>
    cases h' : e'.execute limit body' options w' with
    | none => exact .none
    | some y =>
      obtain ⟨left, hsome, -⟩ := exists_execute_alike (hk.flip.follows_eq ha.flip) rfl hback
        he.symm hw.flip h'
      rw [h] at hsome
      cases hsome

namespace World

/-- How a run of a blocked caller in `w` stands to one that is waited for on the runtime, if their
client has got the calls `before` already. -/
def forked (w : World) (before : List Call) : Likeness where
  client := Client.Inserts before (if w.onRuntime then [.fork] else [])
  events es es' := ∃ later, es = w.journal.events ++ later ∧ es' = w.journal.events ++
    ((if w.onRuntime then [(w.scopes.length, .fork (.ok ()))] else []) ++ later)
  apart := some w.scopes.length

theorem keeps_forked (w : World) (before : List Call) : (w.forked before).Keeps := by
  refine Likeness.keeps_of_apart rfl ?_ ?_
  · rintro _ s _ _ call ⟨rfl, later, rfl, rfl⟩
    exact ⟨rfl, later ++ [call], by simp, by simp⟩
  · rintro _ _ e ⟨later, rfl, rfl⟩
    exact ⟨later ++ [e], by simp, by simp⟩

theorem answers_forked (w : World) (before : List Call) : (w.forked before).Answers := by
  rintro _ _ time id s (⟨c, rfl, later, hc, rfl⟩ | ⟨c, -⟩)
  · have hcalls : (c.propose time id s).2.calls = c.calls ++ [.propose id s] :=
      congrArg (fun x => x.2.calls) (c.propose_withCalls c.calls time id s)
    have hwith := c.propose_withCalls
      (before ++ ((if w.onRuntime then [.fork] else []) ++ later)) time id s
    refine ⟨(Prod.ext_iff.1 hwith).1, ?_⟩
    simp only [Client.propose]
    rw [hwith]
    exact .inMemory _ ⟨rfl, later ++ [.propose id s], by rw [hcalls, hc, List.append_assoc],
      by simp only [List.append_assoc]⟩
  · exact ⟨rfl, .remote _ trivial⟩

/-! ## The two entry points -/

/-- Wait on the runtime for a run of the flow. -/
def awaited (limit : Nat) (body : Body) (flow : Flow) (request : RunRequest) (w : World) :
    Option (RunReply × World) :=
  { w with onRuntime := true }.runFlow limit (body.invoke limit) flow
    { request with entry := .await }

/-- Block the thread until a run of the flow is over. -/
def blocked (limit : Nat) (body : Body) (flow : Flow) (request : RunRequest) (w : World) :
    Option (RunReply × World) :=
  w.runFlow limit (body.invoke limit) flow { request with entry := .block }

/-- What came of a run for a blocked caller in `w`, next to what came of one that was waited for on
the runtime. The client had got the calls `before` already. -/
structure SameRun (w : World) (request : RunRequest) (before : List Call)
    (x y : RunReply × World) : Prop where
  outcome : y.1.outcome = x.1.outcome
  client : (w.forked before).client x.1.client y.1.client
  world : { x.2 with onRuntime := w.onRuntime }.Alike
    (if w.inherits request then w.forked before else (w.forked before).exact) w.scopes.length y.2

variable {w left left' : World} {limit : Nat} {body : Body} {flow : Flow} {request : RunRequest}
  {client : Client} {before : List Call}

/-- Back with their callers, the two worlds are alike. -/
theorem Alike.alight_entries (h : left.Alike (w.forked before) w.scopes.length left') :
    { { w with onRuntime := true }.alight { request with entry := .await } left with
      onRuntime := w.onRuntime }.Alike
      (if w.inherits request then w.forked before else (w.forked before).exact) w.scopes.length
      (w.alight { request with entry := .block } left') := by
  cases hi : w.inherits request with
  | true =>
    rw [World.inherits] at hi
    simp only [World.alight, hi, if_true]
    exact { h with onRuntime := rfl }
  | false =>
    rw [World.inherits] at hi
    simp only [World.alight, hi, Bool.false_eq_true, if_false]
    have hown : { left with client := w.client }.Alike (w.forked before).exact w.scopes.length
        { left' with client := w.client } := h.withClient rfl
    exact { hown with onRuntime := rfl }

/-- Where the two runs start from. -/
theorem exists_board (hf : w.onRuntime → client.fork.1 = .ok ()) : ∃ entered,
    { w with client }.board .block = (.ok (), entered) ∧
      { w with client, onRuntime := true }.Alike (w.forked client.calls) w.scopes.length
        entered := by
  cases hon : w.onRuntime with
  | true =>
    have hfork := hf hon
    refine ⟨{ { w with client }.fork.2 with onRuntime := true }, ?_, ?_⟩
    · simp only [World.board, World.fork, hon, if_true, hfork]
    · refine .refl { w with client, onRuntime := true } ?_ ⟨[], ?_, ?_⟩
      · simp only [forked, hon, if_true]
        exact Client.inserts_fork hfork
      · simp
      · rw [if_pos hon, List.append_nil]
        exact congrArg (fun r => w.journal.events ++ [(w.scopes.length, .fork r)]) hfork
  | false =>
    refine ⟨{ w with client, onRuntime := true }, ?_, ?_⟩
    · simp only [World.board, Bool.false_eq_true, if_false]
    · refine .refl { w with client, onRuntime := true } ?_ ⟨[], ?_, ?_⟩
      · simp only [forked, hon, Bool.false_eq_true, if_false]
        exact Client.inserts_nil client
      · simp
      · simp [hon]

/-- What is true of the outcome of both runs when they are over, before the callers go on. -/
theorem rel_carryOut (hb : ∀ n parameters, (body n parameters).Respects Client.SameButLog)
    (hf : w.onRuntime → client.fork.1 = .ok ()) :
    Option.Rel (fun x y => y.1 = x.1 ∧ x.2.Alike (w.forked client.calls) w.scopes.length y.2)
      ({ w with client, onRuntime := true }.carryOut limit (body.invoke limit) flow
        { request with entry := .await })
      ({ w with client }.carryOut limit (body.invoke limit) flow
        { request with entry := .block }) := by
  obtain ⟨entered, hboard, hentered⟩ := exists_board hf
  have hkeeps := w.keeps_forked client.calls
  have hanswers := w.answers_forked client.calls
  have hbody : (body.invoke limit).Follows (w.forked client.calls) (body.invoke limit) :=
    Body.follows_invoke (hkeeps.follows_eq hanswers) rfl Client.Inserts.sameButLog hb
      (.inl hanswers)
  have hback : (body.invoke limit).Follows (w.forked client.calls).flip (body.invoke limit) :=
    Body.follows_invoke (hkeeps.flip.follows_eq hanswers.flip) rfl
      (fun hc => (Client.Inserts.sameButLog hc).symm) hb (.inl hanswers.flip)
  have hengines : (engineFor flow { request with entry := .await }).Alike
      ((w.forked client.calls).masks w.scopes.length)
      (engineFor flow { request with entry := .block }) := by
    have hmasks : (w.forked client.calls).masks w.scopes.length = true := by
      simp [Likeness.masks, forked]
    rw [hmasks]
    exact { Engine.Alike.refl true (engineFor flow { request with entry := .await }) with
      mode := fun h => absurd h (by decide), group := ⟨fun h => absurd h (by decide), rfl⟩ }
  simp only [carryOut, hboard]
  exact Engine.rel_execute hkeeps hanswers hbody hback hengines hentered

/-- A fork that fails is the only call of the client. -/
theorem blocked_of_not_forked {error : ClientError} (hc : w.clientFor request.options = .ok client)
    (hon : w.onRuntime) (hf : client.fork.1 = .error error) : ∃ c left, client = .inMemory c ∧
      w.blocked limit body flow request =
        some ({ outcome := .error (.client error), client := .inMemory (c.note .fork) }, left) ∧
      left.journal = { w.journal with
        events := w.journal.events ++ [(w.scopes.length, .fork (.error error))] } := by
  cases client with
  | remote c => cases hf
  | inMemory c =>
    have hnote : (Client.inMemory c).fork = (.error error, .inMemory (c.note .fork)) := by
      simp only [Client.fork, LocalClient.fork] at hf ⊢
      split at hf <;> cases hf
      rfl
    refine ⟨c, w.alight { request with entry := .block }
      { ({ w with client := .inMemory (c.note .fork) }.record (.fork (.error error))) with
        onRuntime := true }, rfl, ?_, ?_⟩
    · simp only [blocked, runFlow, hc, board, hon, if_true, World.fork, hnote]
      rfl
    · simp only [alight]
      split <;> rfl

/-- **Both entry points drive the same run.** Without a client there is none. A client that cannot
be forked for a caller that blocks a thread of a runtime gets no other call. In all other cases
either both runs come to an end, with the same outcome in worlds that are alike, or neither does. -/
theorem runFlow_entries (w : World) (limit : Nat) (flow : Flow) (request : RunRequest)
    (hb : ∀ n parameters, (body n parameters).Respects Client.SameButLog) :
    (∀ error, w.clientFor request.options = .error error →
      w.awaited limit body flow request =
        some ({ outcome := .error error, client := w.client }, { w with onRuntime := true }) ∧
      w.blocked limit body flow request =
        some ({ outcome := .error error, client := w.client }, w)) ∧
    (∀ client error, w.clientFor request.options = .ok client → w.onRuntime →
      client.fork.1 = .error error → ∃ c left, client = .inMemory c ∧
      w.blocked limit body flow request =
        some ({ outcome := .error (.client error), client := .inMemory (c.note .fork) }, left) ∧
      left.journal = { w.journal with
        events := w.journal.events ++ [(w.scopes.length, .fork (.error error))] }) ∧
    ∀ client, w.clientFor request.options = .ok client →
      (w.onRuntime → client.fork.1 = .ok ()) →
      Option.Rel (w.SameRun request client.calls) (w.awaited limit body flow request)
        (w.blocked limit body flow request) := by
  refine ⟨fun error hc => ?_, fun client error hc => blocked_of_not_forked hc,
    fun client hc hf => ?_⟩
  · have hc' : { w with onRuntime := true }.clientFor request.options = .error error := hc
    simp only [awaited, blocked, runFlow, hc, hc']
    exact ⟨trivial, trivial⟩
  · have hawait : { w with onRuntime := true }.clientFor
        ({ request with entry := .await } : RunRequest).options = .ok client := hc
    have hblock : w.clientFor ({ request with entry := .block } : RunRequest).options =
        .ok client := hc
    have hrel := @rel_carryOut w limit body flow request client hb hf
    rw [awaited, blocked, runFlow_eq hawait, runFlow_eq hblock]
    generalize carryOut _ _ _ { request with entry := .await } _ = x at hrel ⊢
    generalize carryOut _ _ _ { request with entry := .block } _ = y at hrel ⊢
    cases hrel with
    | none => exact .none
    | some h =>
      obtain ⟨ho, halike⟩ := h
      exact .some ⟨ho, halike.client, halike.alight_entries⟩

/-- A body that fails once. Then it leaves a task in the background, proposes a state itself and
blocks its thread until a child of it is over. -/
def entangled : Body := fun n _ =>
  if n = 0 then .done (.error (.plain "not yet"))
  else
    .perform (.spawn "poll" 5 false) fun _ =>
    .perform (.propose (.running default)) fun _ =>
    .runFlow { name := "child" } (fun _ _ => .done (.ok (.int 2))) { entry := .block } fun reply =>
    .done (if reply.outcome.isOk then .ok (.int 1) else .error (.plain "no child"))

theorem runFlow_entries_entangled : ∃ x y,
    ({} : World).awaited 9 entangled { name := "outer", retries := 1 } {} = some x ∧
    ({} : World).blocked 9 entangled { name := "outer", retries := 1 } {} = some y ∧
    ({} : World).SameRun {} [] x y := by
  have hb : ∀ n parameters, (entangled n parameters).Respects Client.SameButLog := by
    intro n parameters
    rw [entangled]
    split
    · trivial
    · refine fun _ _ => ⟨fun _ _ => trivial, fun _ => trivial, fun _ r r' ho _ => ?_⟩
      simp only [ho]
  have hrel := (runFlow_entries {} 9 { name := "outer", retries := 1 } {} hb).2.2 _ rfl
    fun _ => rfl
  have hsome : (({} : World).awaited 9 entangled { name := "outer", retries := 1 } {}).isSome := by
    decide +kernel
  obtain ⟨x, hx⟩ := Option.isSome_iff_exists.1 hsome
  rw [hx] at hrel
  generalize ({} : World).blocked 9 entangled { name := "outer", retries := 1 } {} = y at hrel ⊢
  cases hrel with
  | some h => exact ⟨x, _, hx, rfl, h⟩

end World

end RunEngine
