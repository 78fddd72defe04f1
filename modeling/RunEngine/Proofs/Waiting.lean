import RunEngine.Proofs.Counterpart
import RunEngine.Proofs.Proposal
import RunEngine.Proofs.Simulation

/-!
# Requests to wait

An orchestrator may ask for a proposal to be made again after a while. However often it does so, and
whatever delays it asks for, what comes of the run is what would have come of it without: the same
outcome, the same invocations, the same store. All that is left of it is in the log of the client,
where each request to wait accounts for one more proposal, immediately before the same proposal
(`Repeats`), and in the journal, which shows the proposals that were answered so.

The run with the requests to wait and the one without are followed side by side as in
`Program.exists_run_alike`. In the middle of a proposal the first execution may have made it a few
times more than the second one (`LocalClient.waiting`). The second execution is within the bound of
the first one. To find the first one for a given second one, its bound is raised by the length of
the script, since each request to wait uses up an answer.

Main result: **`runFlow_waitless`**.
-/

namespace RunEngine

/-! ## Scripts and logs -/

/-- Whether a prepared answer asks for the proposal to be made again. -/
def asksToWait : Option (Except ClientError Answer) → Bool
  | some (.ok (.wait ..)) => true
  | _ => false

/-- The script without its requests to wait. -/
def Script.waitless (answers : Script Answer) : Script Answer :=
  answers.filter fun answer => !asksToWait answer

/-- How many requests to wait there are in a script. -/
def Script.waits (answers : Script Answer) : Nat := answers.countP asksToWait

def LocalClient.waitless (c : LocalClient) : LocalClient := { c with answers := c.answers.waitless }

/-- `long` is `short` with `n` more proposals, each immediately before one that is the same. -/
inductive Repeats : (n : Nat) → (long short : List Call) → Prop
  | nil : Repeats 0 [] []
  | call {n : Nat} {long short : List Call} (call : Call) : Repeats n long short →
      Repeats n (call :: long) (call :: short)
  | again {n : Nat} {long short : List Call} {id : Uuid} {s : State} :
      Repeats n (.propose id s :: long) (.propose id s :: short) →
      Repeats (n + 1) (.propose id s :: .propose id s :: long) (.propose id s :: short)

namespace Repeats

theorem append {n n' : Nat} {long long' short short' : List Call} (h : Repeats n long short)
    (h' : Repeats n' long' short') : Repeats (n + n') (long ++ long') (short ++ short') := by
  induction h with
  | nil => rwa [Nat.zero_add]
  | call x _ ih => exact .call x ih
  | again _ ih =>
    rw [Nat.add_right_comm]
    exact .again ih

/-- One proposal, made so many times more. -/
theorem replicate (k : Nat) (id : Uuid) (s : State) :
    Repeats k (List.replicate (k + 1) (.propose id s)) [.propose id s] := by
  induction k with
  | zero => exact .call _ .nil
  | succ k ih => exact .again ih

end Repeats

/-- What the logs and the prepared answers have come to, of a client that began as `c` and of one
that began as `c.waitless`. The calls `pending` were made by the first one only, so far. -/
structure Waits (c : LocalClient) (pending : List Call) (calls : List Call)
    (answers : Script Answer) (calls' : List Call) (answers' : Script Answer) : Prop where
  left : answers <:+ c.answers
  waitless : answers' = answers.waitless
  calls : ∃ n long short, calls = c.calls ++ (long ++ pending) ∧ calls' = c.calls ++ short ∧
    Repeats n long short ∧ n + pending.length + answers.waits = c.answers.waits

/-- Whether a proposal was answered by a request to wait. -/
def Event.isWait : Event → Bool
  | propose _ _ (.ok (.wait ..)) => true
  | _ => false

/-- How an execution that begins with the client `c` stands to one that begins with `c.waitless`. -/
def LocalClient.waiting (c : LocalClient) (pending : List Call := []) : Likeness where
  client := Client.Apart (Waits c pending) False
  events es es' := (es'.filter fun e => !e.2.isWait) = es.filter fun e => !e.2.isWait

variable {c d : LocalClient} {k n m depth : Nat} {id : Uuid} {s : State} {time : Timestamp}
  {w w' v : World}

theorem LocalClient.keeps_waiting (c : LocalClient) : c.waiting.Keeps := by
  refine Likeness.keeps_of_apart rfl ?_ ?_
  · rintro _ _ _ _ call ⟨hleft, hwaitless, n, long, short, rfl, rfl, hrep, hn⟩
    refine ⟨hleft, hwaitless, n, long ++ [call], short ++ [call], by simp, by simp, ?_, hn⟩
    exact hrep.append (.call call .nil)
  · rintro _ _ e he
    simp only [LocalClient.waiting, List.filter_append] at he ⊢
    rw [he]

/-! ## One proposal -/

/-- An orchestrator in memory does not ask to wait. -/
theorem Orchestrator.propose_ne_wait (o : Orchestrator) (time : Timestamp) (id : Uuid) (s : State)
    (delay : Binary64) (reason : String) : (o.propose time id s).1 ≠ .wait delay reason := by
  simp only [Orchestrator.propose]
  split
  · exact fun h => by cases h
  · rename_i r _
    intro h
    have hr := @StoredRun.recorded?_judge o.hold time r s
    rw [h] at hr
    cases hr

/-- Either a request to wait is used up, or the answer is the one that there is without them. -/
theorem LocalClient.propose_cases (d : LocalClient) (time : Timestamp) (id : Uuid) (s : State) :
    (∃ delay reason rest, d.answers = some (.ok (.wait delay reason)) :: rest ∧
      d.propose time id s =
        (.ok (.wait delay reason), { d.note (.propose id s) with answers := rest })) ∨
    ((∀ delay reason, (d.propose time id s).1 ≠ .ok (.wait delay reason)) ∧
      (d.propose time id s).2.calls = d.calls ++ [.propose id s] ∧
      (d.propose time id s).2.answers <:+ d.answers ∧
      (d.propose time id s).2.answers.waits = d.answers.waits ∧
      ∀ calls, { d with calls, answers := d.answers.waitless }.propose time id s =
        ((d.propose time id s).1, { (d.propose time id s).2 with
          calls := calls ++ [.propose id s]
          answers := (d.propose time id s).2.answers.waitless })) := by
  have hstore : ∀ delay reason,
      (Except.ok (ε := ClientError) (d.orchestrator.propose time id s).1) ≠
        .ok (.wait delay reason) := fun delay reason h =>
    d.orchestrator.propose_ne_wait time id s delay reason (Except.ok.inj h)
  obtain ⟨o, connects, creations, answers, tasks, forkError, calls⟩ := d
  cases answers with
  | nil => exact .inr ⟨hstore, rfl, List.suffix_refl _, rfl, fun _ => rfl⟩
  | cons answer rest =>
    rcases answer with - | ⟨error | ⟨state | ⟨state, reason⟩ | ⟨delay, reason⟩ | reason⟩⟩
    case none => exact .inr ⟨hstore, rfl, List.suffix_cons .., rfl, fun _ => rfl⟩
    case some.ok.wait => exact .inl ⟨delay, reason, rest, rfl, rfl⟩
    all_goals
      exact .inr ⟨fun _ _ => nofun, rfl, List.suffix_cons .., rfl, fun _ => rfl⟩

namespace Waits

variable {calls calls' : List Call} {answers answers' rest : Script Answer}

/-- The first client was asked to wait. -/
theorem again {delay : Binary64} {reason : String}
    (h : Waits c (List.replicate k (.propose id s)) calls answers calls' answers')
    (ha : answers = some (.ok (.wait delay reason)) :: rest) :
    Waits c (List.replicate (k + 1) (.propose id s)) (calls ++ [.propose id s]) rest calls'
      answers' := by
  obtain ⟨hleft, hwaitless, n, long, short, rfl, hcalls, hrep, hn⟩ := h
  subst ha
  refine ⟨(List.suffix_cons ..).trans hleft, hwaitless, n, long, short, ?_, hcalls, hrep, ?_⟩
  · rw [List.replicate_succ', List.append_assoc, List.append_assoc]
  · have hone : Script.waits (some (.ok (.wait delay reason)) :: rest) = rest.waits + 1 :=
      List.countP_cons_of_pos rfl
    rw [hone] at hn
    rw [List.length_replicate] at hn ⊢
    omega

/-- Both clients were given the same answer. -/
theorem answered (h : Waits c (List.replicate k (.propose id s)) calls answers calls' answers')
    (hrest : rest <:+ answers) (hwaits : rest.waits = answers.waits) :
    Waits c [] (calls ++ [.propose id s]) rest (calls' ++ [.propose id s]) rest.waitless := by
  obtain ⟨hleft, -, n, long, short, rfl, rfl, hrep, hn⟩ := h
  refine ⟨hrest.trans hleft, rfl, n + k, long ++ List.replicate (k + 1) (.propose id s),
    short ++ [.propose id s], ?_, by rw [List.append_assoc], hrep.append (.replicate ..), ?_⟩
  · rw [List.append_nil, List.replicate_succ', List.append_assoc, List.append_assoc]
  · rw [List.length_replicate] at hn
    rw [List.length_nil, Nat.add_zero, hwaits, hn]

end Waits

/-- Either the first client asks to wait, and the second one is not asked yet, or both give the same
answer. -/
theorem Client.propose_waiting {x y : Client} (time : Timestamp)
    (h : (c.waiting (List.replicate k (.propose id s))).client x y) :
    (∃ delay reason, (x.propose time id s).1 = .ok (.wait delay reason) ∧
      (c.waiting (List.replicate (k + 1) (.propose id s))).client (x.propose time id s).2 y) ∨
    ((∀ delay reason, (x.propose time id s).1 ≠ .ok (.wait delay reason)) ∧
      (y.propose time id s).1 = (x.propose time id s).1 ∧
      c.waiting.client (x.propose time id s).2 (y.propose time id s).2) := by
  rcases h with ⟨d, hr⟩ | ⟨_, h⟩
  · obtain rfl := hr.waitless
    rcases d.propose_cases time id s with
      ⟨delay, reason, rest, ha, hp⟩ | ⟨hne, hcalls, hrest, hwaits, hp⟩
    · refine .inl ⟨delay, reason, ?_, ?_⟩
      · simp only [propose, hp]
      · simp only [propose, hp]
        exact .inMemory { d.note (.propose id s) with answers := rest } (hr.again ha)
    · refine .inr ⟨hne, ?_, ?_⟩
      · simp only [propose, hp]
      · simp only [propose, hp]
        refine .inMemory _ ?_
        rw [hcalls]
        exact hr.answered hrest hwaits
  · exact h.elim

/-- Either the first execution is asked to wait, or both are given the same answer. -/
theorem World.propose_waiting
    (hw : w.Alike (c.waiting (List.replicate k (.propose id s))) depth w') :
    (∃ delay reason, (w.propose id s).1 = .ok (.wait delay reason) ∧
      (w.propose id s).2.Alike (c.waiting (List.replicate (k + 1) (.propose id s))) depth w') ∨
    ((∀ delay reason, (w.propose id s).1 ≠ .ok (.wait delay reason)) ∧
      Agree c.waiting depth (w.propose id s) (w'.propose id s)) := by
  rcases Client.propose_waiting w.now hw.client with ⟨delay, reason, hr, hc⟩ | ⟨hne, hr, hc⟩
  · refine .inl ⟨delay, reason, hr, ?_⟩
    have hevents : (c.waiting (List.replicate (k + 1) (.propose id s))).events
        (w.propose id s).2.journal.events w'.journal.events := by
      have he := hw.events
      simp only [LocalClient.waiting] at he ⊢
      simp only [World.propose, World.record, hr, List.filter_append, he]
      simp [Event.isWait]
    exact { hw with client := hc, events := hevents }
  · have hrec := (hw.withClient hc).record c.keeps_waiting
      (.propose id s (w.client.propose w.now id s).1)
    refine .inr ⟨hne, ?_⟩
    simp only [Agree, World.propose, hw.now, hr] at hrec ⊢
    exact ⟨trivial, hrec⟩

/-! ## Proposals -/

/-- A proposal comes to the same in the second execution, within any bound. -/
theorem exists_proposeUntilAnswered_waitless {r : Except EngineError State} (hm : 0 < m)
    (hw : w.Alike (c.waiting (List.replicate k (.propose id s))) depth w')
    (h : Engine.proposeUntilAnswered id s n w = some (r, v)) :
    ∃ v', Engine.proposeUntilAnswered id s m w' = some (r, v') ∧ v.Alike c.waiting depth v' := by
  induction n generalizing k w with
  | zero => simp [Engine.proposeUntilAnswered] at h
  | succ n ih =>
    obtain ⟨m, rfl⟩ := Nat.exists_eq_add_one_of_ne_zero (Nat.ne_of_gt hm)
    simp only [Engine.proposeUntilAnswered] at h
    rcases World.propose_waiting hw with ⟨delay, reason, hr, hv⟩ | ⟨hne, hagree⟩
    · generalize w.propose id s = x at h hr hv
      obtain ⟨_, v₁⟩ := x
      cases hr
      -- Only the first execution sleeps, and no clock counts.
      have hslept : (v₁.sleep (Delay.milliseconds delay)).Alike
        (c.waiting (List.replicate (k + 1) (.propose id s))) depth w' := { hv with }
      exact ih hslept h
    · simp only [Engine.proposeUntilAnswered]
      split at h <;> rename_i heq <;> obtain ⟨v', heq', hv⟩ := hagree.exists heq <;> rw [heq']
      case h_3 => exact absurd (congrArg Prod.fst heq) (hne _ _)
      all_goals
        cases h
        exact ⟨v', rfl, hv⟩

theorem pos_of_proposeUntilAnswered {r : Except EngineError State}
    (h : Engine.proposeUntilAnswered id s n w = some (r, v)) : 0 < n := by
  cases n with
  | zero => simp [Engine.proposeUntilAnswered] at h
  | succ n => exact n.succ_pos

theorem LocalClient.follows_waiting (c : LocalClient) : c.waiting.Follows Eq where
  toKeeps := c.keeps_waiting
  fuel h := ⟨_, h.symm, rfl⟩
  propose hn hw h := by
    subst hn
    exact exists_proposeUntilAnswered_waitless (k := 0) (pos_of_proposeUntilAnswered h) hw h

/-- The first client has no more answers left than there were in the beginning. -/
theorem patience_le_of_waiting (hw : w.Alike c.waiting depth w') :
    w.client.patience ≤ c.answers.length := by
  have hclient := hw.client
  generalize w.client = x at hclient ⊢
  generalize w'.client = y at hclient
  cases hclient with
  | inMemory d hr => exact hr.left.length_le
  | remote _ h => exact h.elim

theorem LocalClient.follows_waiting_flip (c : LocalClient) :
    c.waiting.flip.Follows fun n n' => n + c.answers.length ≤ n' where
  toKeeps := c.keeps_waiting.flip
  fuel {n n'} h := ⟨n' - 1, by omega, by omega⟩
  propose {depth n n' w w' v id s r} hn hw h := by
    have hpos := pos_of_proposeUntilAnswered h
    have hpatience : w'.client.patience < n' := by
      have hle := patience_le_of_waiting hw.flip
      omega
    obtain ⟨-, r', v', h', -⟩ := @Engine.exists_proposeUntilAnswered w' n' id s hpatience
    obtain ⟨v₁, h₁, hv⟩ := exists_proposeUntilAnswered_waitless (k := 0) hpos hw.flip h'
    rw [h] at h₁
    cases h₁
    exact ⟨v', h', hv.flip⟩

/-! ## Requests -/

namespace Client

/-- The clients are in memory and the same, up to their logs and the answers that they have prepared
for proposals. -/
def SameButAnswers : Client → Client → Prop := Apart (fun _ _ _ _ => True) False

theorem sameButAnswers_of_waiting {x y : Client} (h : c.waiting.client x y) :
    x.SameButAnswers y := Apart.mono (fun _ => trivial) id h

theorem SameButAnswers.symm {x y : Client} (h : x.SameButAnswers y) : y.SameButAnswers x :=
  Apart.symm id h

end Client

/-- The same request, with a client of its own. -/
def RunRequest.withClient (request : RunRequest) (client : Client) : RunRequest :=
  { request with options := { request.options with client := some client } }

namespace World

/-- What came of a run whose client asked to wait, next to what came of one whose client did not. -/
structure SameButWaits (w : World) (c : LocalClient) (x y : RunReply × World) : Prop where
  outcome : y.1.outcome = x.1.outcome
  client : ∃ d n long short, x.1.client = .inMemory d ∧
    y.1.client = .inMemory { d with answers := d.answers.waitless, calls := c.calls ++ short } ∧
    d.calls = c.calls ++ long ∧ Repeats n long short ∧ n + d.answers.waits = c.answers.waits
  world : x.2.Alike c.waiting.exact w.scopes.length y.2

variable {limit : Nat} {body : Body} {flow : Flow} {request : RunRequest} {left left' : World}
  {outcome : Except EngineError RunOutput}

theorem runFlow_withClient (hi : w.inherits request = false) (body : Invoke) (client : Client) :
    w.runFlow limit body flow (request.withClient client) =
      ({ w with client }.carryOut limit body flow request).map (w.handOver request) := by
  have hc : w.clientFor (request.withClient client).options = .ok client := rfl
  have hcarry : { w with client }.carryOut limit body flow (request.withClient client) =
      { w with client }.carryOut limit body flow request := rfl
  have hhand : w.handOver (request.withClient client) = w.handOver request := by
    funext x
    rw [World.inherits] at hi
    simp only [handOver, alight, hi]
    rfl
  rw [runFlow_eq hc, hcarry, hhand]

/-- The two executions begin alike. -/
theorem alike_waiting (w : World) (c : LocalClient) :
    { w with client := .inMemory c }.Alike c.waiting w.scopes.length
      { w with client := .inMemory c.waitless } := by
  refine .refl { w with client := .inMemory c } (.inMemory c ⟨List.suffix_refl _, rfl, ?_⟩) rfl
  exact ⟨0, [], [], by simp, by simp, .nil, by simp⟩

/-- Back with their callers, they still are, and so are the replies. -/
theorem sameButWaits_handOver (hi : w.inherits request = false)
    (h : left.Alike c.waiting w.scopes.length left') :
    w.SameButWaits c (w.handOver request (outcome, left))
      (w.handOver request (outcome, left')) := by
  have hw : w.Alike c.waiting.exact w.scopes.length w := .refl w rfl rfl
  refine ⟨rfl, ?_, hw.alight_of_not_inherits hi h⟩
  have hclient := h.client
  simp only [handOver]
  generalize left.client = x at hclient ⊢
  generalize left'.client = y at hclient ⊢
  rcases hclient with ⟨d, hr⟩ | ⟨_, h⟩
  · obtain ⟨-, rfl, n, long, short, hcalls, rfl, hrep, hn⟩ := hr
    exact ⟨d, n, long, short, rfl, rfl, by rw [hcalls, List.append_nil], hrep, hn⟩
  · exact h.elim

/-- **Requests to wait are only seen in repeated proposals.** A run that comes to an end does so
within the same bound without the requests to wait, and the other way round within a bound that is
raised by the length of the script. What comes of the two runs is the same. -/
theorem runFlow_waitless (hs : ∀ k parameters, (body k parameters).Silent)
    (hb : ∀ k parameters, (body k parameters).Respects Client.SameButAnswers)
    (hc : w.clientFor request.options = .ok (.inMemory c)) (hi : w.inherits request = false) :
    (∀ limit x, w.runFlow limit (body.invoke limit) flow request = some x →
      ∃ y, w.runFlow limit (body.invoke limit) flow (request.withClient (.inMemory c.waitless)) =
        some y ∧ w.SameButWaits c x y) ∧
    ∀ limit y,
      w.runFlow limit (body.invoke limit) flow (request.withClient (.inMemory c.waitless)) =
        some y →
      ∃ x, w.runFlow (limit + c.answers.length) (body.invoke (limit + c.answers.length)) flow
        request = some x ∧ w.SameButWaits c x y := by
  refine ⟨fun limit x h => ?_, fun limit y h => ?_⟩
  · rw [runFlow_eq hc, Option.map_eq_some_iff] at h
    obtain ⟨⟨outcome, left⟩, hcarry, rfl⟩ := h
    have hbody : (body.invoke limit).Follows c.waiting (body.invoke limit) :=
      Body.follows_invoke c.follows_waiting rfl Client.sameButAnswers_of_waiting hb (.inr hs)
    obtain ⟨left', hcarry', hleft⟩ :=
      exists_carryOut_alike c.follows_waiting rfl hbody (w.alike_waiting c) hcarry
    refine ⟨_, ?_, sameButWaits_handOver hi hleft⟩
    rw [runFlow_withClient hi, hcarry']
    rfl
  · rw [runFlow_withClient hi, Option.map_eq_some_iff] at h
    obtain ⟨⟨outcome, left'⟩, hcarry, rfl⟩ := h
    have hbody : (body.invoke limit).Follows c.waiting.flip
        (body.invoke (limit + c.answers.length)) :=
      Body.follows_invoke c.follows_waiting_flip (Nat.le_refl _)
        (fun h => (Client.sameButAnswers_of_waiting h).symm) hb (.inr hs)
    obtain ⟨left, hcarry', hleft⟩ := exists_carryOut_alike c.follows_waiting_flip (Nat.le_refl _)
      hbody (w.alike_waiting c).flip hcarry
    refine ⟨_, ?_, sameButWaits_handOver hi hleft.flip⟩
    rw [runFlow_eq hc, hcarry']
    rfl

/-- A body that fails once and then runs a child. -/
def persevering : Body := fun n _ =>
  if n = 0 then .done (.error (.plain "not yet"))
  else .runFlow { name := "child" } (fun _ _ => .done (.ok (.int 2))) {} fun reply =>
    .done (if reply.outcome.isOk then .ok (.int 1) else .error (.plain "no child"))

/-- A client that asks to wait before it answers the proposal to run, the report of the failure and
the proposal of the child, for whatever may be no length of time. -/
def pestering : LocalClient :=
  let wait (delay : Binary64) : Option (Except ClientError Answer) :=
    some (.ok (.wait delay "busy"))
  { answers := [wait .nan, wait (.infinity true), none, wait (.infinity false), none,
      wait (.ofMagnitude false (Binary64.infinityMagnitude - 1)), none] }

theorem runFlow_waitless_pestering : ∃ x y,
    ({} : World).runFlow 9 (persevering.invoke 9) { name := "outer", retries := 1 }
      (RunRequest.withClient {} (.inMemory pestering)) = some x ∧
    ({} : World).runFlow 9 (persevering.invoke 9) { name := "outer", retries := 1 }
      (RunRequest.withClient {} (.inMemory pestering.waitless)) = some y ∧
    ({} : World).SameButWaits pestering x y ∧
    (x.1.client.calls.length, y.1.client.calls.length) = (16, 12) := by
  have hs : ∀ k parameters, (persevering k parameters).Silent := by
    intro k parameters
    rw [persevering]
    split
    · trivial
    · exact ⟨fun _ _ => trivial, fun _ => trivial⟩
  have hb : ∀ k parameters, (persevering k parameters).Respects Client.SameButAnswers := by
    intro k parameters
    rw [persevering]
    split
    · trivial
    · refine ⟨fun _ _ => trivial, fun _ => trivial, fun _ r r' ho _ => ?_⟩
      simp only [ho]
  have hlong : (({} : World).runFlow 9 (persevering.invoke 9) { name := "outer", retries := 1 }
      (RunRequest.withClient {} (.inMemory pestering))).map (fun x => x.1.client.calls.length) =
        some 16 := by decide +kernel
  have hshort : (({} : World).runFlow 9 (persevering.invoke 9) { name := "outer", retries := 1 }
      (RunRequest.withClient {} (.inMemory pestering.waitless))).map
        (fun x => x.1.client.calls.length) = some 12 := by decide +kernel
  obtain ⟨x, hx, hx16⟩ := Option.map_eq_some_iff.1 hlong
  obtain ⟨y, hy, hy12⟩ := Option.map_eq_some_iff.1 hshort
  obtain ⟨y', hy', hsame⟩ := (runFlow_waitless hs hb (c := pestering) rfl rfl).1 9 x hx
  obtain rfl : y' = y := Option.some.inj (hy'.symm.trans hy)
  exact ⟨x, y', hx, hy, hsame, by rw [hx16, hy12]⟩

end World

end RunEngine
