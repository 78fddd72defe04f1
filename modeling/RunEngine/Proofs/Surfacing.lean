import RunEngine.Proofs.Bystanders
import RunEngine.Proofs.Simulation

/-!
# How a failure surfaces

A body that runs another flow and has failures raised gets the failure of the nested run as an
error. If it fails by this error in turn, then its own run fails, and so on up to the outermost
caller.

Each run keeps of the failure what its flow captures of it, and its state says so in words. The
caller gets these words as the text of an error of another class, so the class of the failure is
only seen in the innermost run, and the words get longer from run to run (`Surfaces`). A run that
fails in its only attempt leaves everything else in the store alone, so what a nested run came to is
still there when the outermost is over (`Client.Suffers`).

`Program.FailsThrough` describes the bodies. That they fail as described is an induction on the
nesting (`Program.FailsThrough.exists_run`), in which one level is the whole of a run
(`World.exists_runFlow_failing`). The main result is **`runFlow_surfaces`**: what is stored of each
run, and what the outermost caller gets.
-/

namespace RunEngine

/-! ## Failures -/

namespace ErrorCapture

variable (c : ErrorCapture) (f : Failure)

/-- The error that is raised for a run whose only attempt failed. -/
def raised : EngineError :=
  .run (.failed .failed (Engine.failureMessage ++ " " ++ (c.payload f).text) (some (c.payload f)))

theorem message_payload : Engine.failureMessage ++ " " ++ (c.payload f).text =
    "Flow run encountered an exception: " ++ f.kind ++ ": " ++ f.text := by
  rw [show Engine.failureMessage ++ " " = "Flow run encountered an exception: " from rfl]
  simp only [payload, ErrorPayload.text, String.append_assoc]

theorem text_raised : (c.raised f).text =
    "flow run FAILED: " ++ ("Flow run encountered an exception: " ++ f.kind ++ ": " ++ f.text) := by
  rw [← c.message_payload f]
  rfl

end ErrorCapture

/-- The run failed in its only attempt, by an error of that kind and with that text. -/
structure StoredRun.Reports (r : StoredRun) (kind text : String) : Prop where
  runCount : r.record.runCount = 1
  type : r.record.state.type = .failed
  message : r.record.state.message =
    some ("Flow run encountered an exception: " ++ kind ++ ": " ++ text)
  payload : ∃ causes, r.record.state.data = some (.error { kind, message := text, causes })

/-- The run failed in its only attempt, by the error that was raised for the run `next`. -/
def StoredRun.PassesOn (r next : StoredRun) : Prop :=
  ∃ message, next.record.state.message = some message ∧
    r.Reports "Error" ("flow run FAILED: " ++ message)

theorem StoredRun.PassesOn.reports {r next : StoredRun} {kind text : String} (h : r.PassesOn next)
    (hnext : next.Reports kind text) : r.Reports "Error"
      ("flow run FAILED: " ++ ("Flow run encountered an exception: " ++ kind ++ ": " ++ text)) := by
  obtain ⟨message, hm, hr⟩ := h
  cases hm.symm.trans hnext.message
  exact hr

/-- Runs of the flows failed, each in its only attempt, from the last to the first: the last by
`failure`, and each other by the error that was raised for the next. If there is one more run
around them, then it fails by the failure in the end. -/
inductive Surfaces (failure : Failure) : List Flow → List StoredRun → Failure → Prop
  | origin : Surfaces failure [] [] failure
  | run {flow : Flow} {flows : List Flow} {r : StoredRun} {runs : List StoredRun} {f : Failure}
      {time : Timestamp} : Surfaces failure flows runs f → r.record.flowName = flow.name →
      r.record.runCount = 1 →
      r.record.state = flow.capture.failedState time f Engine.failureMessage →
      Surfaces failure (flow :: flows) (r :: runs) { fault := .engine (flow.capture.raised f) }

namespace Surfaces

variable {failure f : Failure} {flow : Flow} {flows : List Flow} {r next : StoredRun}
  {runs : List StoredRun}

/-- The runs are those of the flows. -/
theorem names (h : Surfaces failure flows runs f) :
    runs.map (·.record.flowName) = flows.map (·.name) := by
  induction h with
  | origin => rfl
  | run _ hname _ _ ih => rw [List.map_cons, List.map_cons, hname, ih]

theorem length (h : Surfaces failure flows runs f) : runs.length = flows.length := by
  simpa using congrArg List.length h.names

theorem reports_of_failedState {capture : ErrorCapture} {time : Timestamp}
    (hcount : r.record.runCount = 1)
    (hstate : r.record.state = capture.failedState time f Engine.failureMessage) :
    r.Reports f.kind f.text := by
  refine ⟨hcount, by rw [hstate]; rfl, ?_, _, by rw [hstate]; rfl⟩
  rw [hstate, ← capture.message_payload f]
  rfl

/-- The last run reports the failure itself. -/
theorem last (h : Surfaces failure flows runs f) (hr : runs.getLast? = some r) :
    r.Reports failure.kind failure.text := by
  induction h with
  | origin => cases hr
  | @run _ _ _ runs _ _ h _ hcount hstate ih =>
    cases runs with
    | nil =>
      cases h
      cases hr
      exact reports_of_failedState hcount hstate
    | cons next runs => exact ih (by simpa using hr)

/-- Each run reports what was raised for the next. -/
theorem chain (h : Surfaces failure flows runs f) : runs.IsChain StoredRun.PassesOn := by
  induction h with
  | origin => exact .nil
  | run h _ hcount hstate ih =>
    cases h with
    | origin => exact .singleton _
    | run _ _ _ hnext =>
      refine .cons_cons ⟨_, by rw [hnext]; rfl, ?_⟩ ih
      exact reports_of_failedState hcount hstate

/-- The text of the failure is at the end of every text on the way. -/
theorem suffix (h : Surfaces failure flows runs f) :
    (∃ before, f.text = before ++ failure.text) ∧
      ∀ r ∈ runs, ∃ kind before, r.Reports kind (before ++ failure.text) := by
  induction h with
  | origin => exact ⟨⟨"", by simp⟩, List.forall_mem_nil _⟩
  | @run flow _ _ _ f _ _ _ hcount hstate ih =>
    obtain ⟨⟨before, htext⟩, hruns⟩ := ih
    have hraised := flow.capture.text_raised f
    have hreports := reports_of_failedState hcount hstate
    rw [htext] at hraised hreports
    simp only [← String.append_assoc] at hraised
    exact ⟨⟨_, hraised⟩, List.forall_mem_cons.2 ⟨⟨_, before, hreports⟩, hruns⟩⟩

end Surfaces

/-! ## Bodies that fail -/

/-- The request creates its run, and what its caller gets is the result, or the error that is raised
if there is none. -/
structure RunRequest.Raises (request : RunRequest) : Prop where
  ungiven : request.options.flowRun = none
  result : request.options.returnType = .result
  raises : request.options.raiseOnFailure = true

namespace Program

/-- The program fails, after actions by which nothing is proposed. -/
inductive EndsWith (failure : Failure) : Program → Prop
  | done : EndsWith failure (.done (.error failure))
  | perform {action : Action} {next : action.Reply → Program} : action.proposes = false →
      (∀ r, EndsWith failure (next r)) → EndsWith failure (.perform action next)

/-- The program fails through runs of the flows, each nested in the one before. It runs the first of
them with the client of the enclosing run, and in the end fails by the error that it gets. The body
of the last flow fails by `failure`. No flow is retried. -/
inductive FailsThrough (failure : Failure) : List Flow → Program → Prop
  | fails {p : Program} : p.EndsWith failure → FailsThrough failure [] p
  | perform {flows : List Flow} {action : Action} {next : action.Reply → Program} :
      action.proposes = false → (∀ r, FailsThrough failure flows (next r)) →
      FailsThrough failure flows (.perform action next)
  | nests {flow : Flow} {flows : List Flow} {body : Body} {request : RunRequest}
      {next : RunReply → Program} : flow.retries = 0 → flow.Accepts request.parameters →
      request.Raises → request.options.client = none →
      (∀ invoked parameters, FailsThrough failure flows (body invoked parameters)) →
      (∀ reply error, reply.outcome = .error error →
        EndsWith { fault := .engine error } (next reply)) →
      FailsThrough failure (flow :: flows) (.runFlow flow body request next)

end Program

/-- An action by which nothing is proposed is not noticed by the client, and takes no
identifiers. -/
theorem World.client_ids_perform {action : Action} (w : World) (h : action.proposes = false) :
    (w.perform action).2.client = w.client ∧ (w.perform action).2.ids = w.ids := by
  cases action with
  | propose => cases h
  | note | sleep | occupy => exact ⟨rfl, rfl⟩
  | print =>
    simp only [perform, inScope]
    split
    · exact ⟨rfl, rfl⟩
    · split <;> exact ⟨rfl, rfl⟩
  | log | look | snapshot | dynamicKey | spawn =>
    simp only [perform, inScope]
    split <;> exact ⟨rfl, rfl⟩

theorem Program.EndsWith.exists_run {failure : Failure} {p : Program} (h : p.EndsWith failure)
    (limit : Nat) (w : World) :
    ∃ left, p.run limit w = some (.error failure, left) ∧ left.client = w.client := by
  induction h generalizing w with
  | done => exact ⟨w, rfl, rfl⟩
  | @perform action _ hsilent _ ih =>
    obtain ⟨left, hrun, hclient⟩ := ih (w.perform action).1 (w.perform action).2
    exact ⟨left, hrun, hclient.trans (w.client_ids_perform hsilent).1⟩

/-! ## What is stored -/

namespace Client

variable {a b c d : Client} {hold k : Nat} {r : StoredRun} {runs : List StoredRun}

/-- The types of the states that are proposed for a run that fails in its only attempt. -/
def failing (hold : Nat) : List StateType := List.replicate (hold + 1) .running ++ [.failed]

/-- The client `b` comes after `a`, and in between `runs` were created, under the identifiers from
the number `k` on, and failed in their only attempts. Nothing was done about other runs. -/
structure Suffers (a : Client) (hold k : Nat) (runs : List StoredRun) (b : Client) : Prop where
  held : ∀ i r, runs[i]? = some r → b.Holds hold (.ofRun (k + i)) r (failing hold)
  others : ∀ id, (∀ i < runs.length, Uuid.ofRun (k + i) ≠ id) → a.Bypasses id b

theorem Suffers.nil (a : Client) (hold k : Nat) : a.Suffers hold k [] a where
  held i r h := by simp at h
  others id _ := .refl id a

/-- **A run in whose only attempt others fail, and that fails itself.** -/
theorem Suffers.around (h : b.Suffers hold (k + 1) runs c)
    (hbefore : ∀ id, Uuid.ofRun k ≠ id → a.Bypasses id b)
    (hafter : ∀ id, Uuid.ofRun k ≠ id → c.Bypasses id d)
    (hdistinct : ∀ i < runs.length, Uuid.ofRun (k + 1 + i) ≠ .ofRun k)
    (hr : d.Holds hold (.ofRun k) r (failing hold)) : a.Suffers hold k (r :: runs) d where
  held i s hs := by
    cases i with
    | zero =>
      cases hs
      exact hr
    | succ i =>
      rw [List.getElem?_cons_succ] at hs
      have hheld := h.held i s hs
      have hi : i < runs.length := (List.getElem?_eq_some_iff.1 hs).1
      rw [Nat.add_right_comm, Nat.add_assoc] at hheld
      refine (hafter _ ?_).holds hheld
      rw [← Nat.add_assoc, Nat.add_right_comm]
      exact (hdistinct i hi).symm
  others id hid := by
    have hk : Uuid.ofRun k ≠ id := hid 0 (Nat.succ_pos _)
    refine ((hbefore id hk).trans (h.others id fun i hi => ?_)).trans (hafter id hk)
    rw [Nat.add_right_comm]
    exact hid (i + 1) (Nat.succ_lt_succ hi)

end Client

/-! ## One level -/

namespace World

variable {w : World} {limit hold : Nat} {flow : Flow} {request : RunRequest} {client : Client}
  {failure : Failure} {flows : List Flow}

/-- **The only attempt of a run fails.** The run is stored as failed, and nothing else is touched
after the body. -/
theorem Admitted.exists_attempts {entered started admitted inside : World} {e₁ e : Engine}
    {r : StoredRun} {body : Invoke} {scope : Scope} {f : Failure}
    (h : w.Admitted limit hold flow request client entered started admitted e₁ e r)
    (hb : body.KeepsFrame) (hretries : flow.retries = 0) (hl : 2 ≤ limit)
    (hs : e.scope = some scope)
    (hv : (e.visit scope admitted).run body = some (.error f, inside))
    (hown : admitted.client.Bypasses w.nextRun inside.client) : ∃ e' r' left,
      e.attempts body request.options.returnType limit admitted = some (.ok none, e', left) ∧
      e'.InStep left hold w.nextRun r' (Client.failing hold) ∧
      r'.record.flowName = flow.name ∧ r'.record.runCount = 1 ∧
      r'.record.state = flow.capture.failedState w.now f Engine.failureMessage ∧
      ∀ id, w.nextRun ≠ id → inside.client.Bypasses id left.client := by
  obtain ⟨limit, rfl⟩ := Nat.exists_eq_add_one_of_ne_zero (show limit ≠ 0 by omega)
  have hrunning : r.record.state.isRunning := by rw [h.state]; rfl
  have hgo : e.isRunning := (h.inStep.drives.isRunning h.inStep.state).trans hrunning
  obtain ⟨own, hp, -⟩ := hb.leads hv
  have hnone : (e.visit scope admitted).states inside w.nextRun = [] :=
    hown.statesSince_eq_nil hp.client h.inStep.holds
  obtain ⟨e', left, hattempt, hstep, hflow, -⟩ :=
    Engine.attempt_of_inStep h.inStep hb hs hv (show 0 < limit by omega)
  have hlast := @Engine.attempted_last 0 r (fun _ => .error f) e hold admitted.now hrunning
    (by rw [h.runCount]; rfl) (fun _ => by rw [h.retries, hretries]; rfl)
  rw [hnone, List.map_nil, List.append_nil, hlast, h.flow,
    show admitted.now = w.now from h.spends.now] at hstep
  have hover : e'.isRunning = false := (hstep.drives.isRunning hstep.state).trans
    (State.isRunning_of_isFinal (Engine.isFinal_report flow w.now (.error f)))
  have hdriven : Engine.Driven body e admitted ([] ++ [e.visit scope admitted]) e' left := by
    obtain ⟨scope', hs', hdriven⟩ := Engine.driven_attempt hattempt
    cases hs.symm.trans hs'
    exact hdriven
  refine ⟨e', _, left, ?_, hstep, h.flowName, h.runCount, rfl, fun id hid => ?_⟩
  · rw [Engine.attempts_succ hgo hattempt, if_neg (by simp [Except.toOption])]
    exact Engine.attempts_of_not_isRunning hover (by omega)
  · obtain ⟨run, hrun, hrunId⟩ := h.inStep.drives.record
    refine Engine.bypasses_since hdriven ?_ hv
    rwa [hrun, Option.map_some, hrunId, ne_eq, Option.some_inj]

/-- **A level of the nesting.** If the body fails through runs of the flows whenever there is room
for them, then its run fails with them. -/
theorem exists_runFlow_failing {body : Invoke} (hc : w.clientFor request.options = .ok client)
    (hroom : { w with client }.HasRoom hold (flows.length + 1)) (hreq : request.Raises)
    (hretries : flow.retries = 0) (hp : flow.Accepts request.parameters) (hb : body.KeepsFrame)
    (hbody : ∀ invoked parameters inside, inside.scopes ≠ [] →
      inside.HasRoom hold flows.length → ∃ f runs left,
        body invoked parameters inside = some (.error f, left) ∧ Surfaces failure flows runs f ∧
        inside.client.Suffers hold inside.ids.runs runs left.client)
    (hl : hold + 2 ≤ limit) : ∃ error runs left,
      w.runFlow limit body flow request =
        some ({ outcome := .error error, client := left.client }, w.alight request left) ∧
      Surfaces failure (flow :: flows) runs { fault := .engine error } ∧
      client.Suffers hold w.ids.runs runs left.client := by
  obtain ⟨client', entered, started, admitted, e₁, e, r, h⟩ :=
    exists_admitted ⟨hreq.ungiven, client, hc, hroom.hosts⟩ hp hl
  obtain rfl : client = client' := Except.ok.inj (hc.symm.trans h.chosen)
  obtain ⟨scope, hs⟩ := Option.isSome_iff_exists.1 h.inStep.drives.scope
  obtain ⟨f, runs, inside, hrun, hsurfaces, hsuffers⟩ := hbody e.invocations e.parameters
    (e.enter scope admitted) (List.cons_ne_nil _ _) (hroom.enter h hreq.ungiven hp hs)
  replace hsuffers : admitted.client.Suffers hold (w.ids.runs + 1) runs inside.client := by
    rw [← (h.issued hreq.ungiven hroom.grants).1]
    exact hsuffers
  have hdistinct : ∀ i < runs.length, Uuid.ofRun (w.ids.runs + 1 + i) ≠ w.nextRun := by
    intro i hi heq
    rw [hsurfaces.length] at hi
    rw [Nat.add_assoc, Nat.add_comm 1] at heq
    exact Nat.succ_ne_zero i (hroom.distinct _ (Nat.succ_lt_succ hi) 0 (Nat.succ_pos _) heq)
  obtain ⟨e', r', driven, hatt, hstep, hname, hcount, hstate, hafter⟩ :=
    h.exists_attempts hb hretries (by omega) hs hrun (hsuffers.others _ hdistinct)
  have hflow := runFlow_of_drive h.chosen h.boarded h.start h.scope (h.drive_eq hatt hstep)
  have hraised : settled request r' none = .error (flow.capture.raised f) := by
    rw [settled, hstate]
    exact RunOptions.resolution_failed_raised hreq.result hreq.raises ..
  rw [hraised] at hflow
  have hclose := Engine.client_finish (w := driven) hstep.drives.connected
  refine ⟨_, r' :: runs, (e'.finish driven).2, hflow, .run hsurfaces hname hcount hstate, ?_⟩
  rw [hclose]
  exact hsuffers.around (fun id => h.bypasses hreq.ungiven hp)
    (fun id hid => (hafter id hid).trans (Client.bypasses_close ..)) hdistinct hstep.holds.close

end World

/-! ## Any depth -/

/-- **A body fails through the runs that are nested in it.** -/
theorem Program.FailsThrough.exists_run {failure : Failure} {flows : List Flow} {p : Program}
    {limit hold : Nat} {w : World} (h : p.FailsThrough failure flows) (hs : w.scopes ≠ [])
    (hroom : w.HasRoom hold flows.length) (hl : hold + 2 ≤ limit) : ∃ f runs left,
      p.run limit w = some (.error f, left) ∧ Surfaces failure flows runs f ∧
      w.client.Suffers hold w.ids.runs runs left.client := by
  induction h generalizing w with
  | fails hends =>
    obtain ⟨left, hrun, hclient⟩ := hends.exists_run limit w
    exact ⟨failure, [], left, hrun, .origin, hclient ▸ .nil ..⟩
  | @perform _ action _ hsilent _ ih =>
    obtain ⟨hclient, hids⟩ := w.client_ids_perform hsilent
    have haround := (w.yields_perform action).around
    have hs' : (w.perform action).2.scopes ≠ [] := fun hnil => by
      rw [hnil, List.map_nil, eq_comm, List.map_eq_nil_iff] at haround
      exact hs haround
    obtain ⟨f, runs, left, hrun, hsurfaces, hsuffers⟩ :=
      ih (w.perform action).1 hs' (hroom.of_yields hclient hids haround)
    rw [hclient, hids] at hsuffers
    exact ⟨f, runs, left, hrun, hsurfaces, hsuffers⟩
  | @nests flow flows body request next hretries hp hreq hclient _ hnext ih =>
    have hi : w.inherits request := by simp [World.inherits, hclient, hs]
    obtain ⟨error, runs, left, hrun, hsurfaces, hsuffers⟩ :=
      World.exists_runFlow_failing (World.clientFor_of_inherits hi) hroom hreq hretries hp
        (body.keepsFrame_invoke limit)
        (fun invoked parameters inside hs hroom => ih invoked parameters hs hroom) hl
    obtain ⟨left', hrun', hclient'⟩ :=
      (hnext { outcome := .error error, client := left.client } error rfl).exists_run limit
        (w.alight request left)
    refine ⟨_, runs, left', ?_, hsurfaces, ?_⟩
    · simp only [Program.run]
      rw [show w.runFlow limit (fun n parameters inside => (body n parameters).run limit inside)
        flow request = _ from hrun]
      exact hrun'
    · rw [hclient', World.client_alight_of_inherits hi]
      exact hsuffers

namespace World

variable {w : World} {limit hold : Nat} {flow : Flow} {request : RunRequest} {body : Body}
  {client : Client} {failure : Failure} {flows : List Flow}

/-- **A failure surfaces through any depth of nesting.** When a flow is run that fails through runs
of other flows, all these runs end failed in their only attempts, after the proposals to run and
the one that reports the failure. The last run keeps the failure itself and each other the error
that was raised for the next, so that the text of the failure is at the end of all their texts. The
caller gets the failure of the first. -/
theorem runFlow_surfaces (hc : w.clientFor request.options = .ok client)
    (hroom : { w with client }.HasRoom hold (flows.length + 1)) (hreq : request.Raises)
    (hretries : flow.retries = 0) (hp : flow.Accepts request.parameters)
    (hbody : ∀ invoked parameters, (body invoked parameters).FailsThrough failure flows)
    (hl : hold + 2 ≤ limit) : ∃ reply left, ∃ runs : List StoredRun,
      w.runFlow limit (body.invoke limit) flow request = some (reply, left) ∧
      runs.map (·.record.flowName) = (flow :: flows).map (·.name) ∧
      (∀ i r, runs[i]? = some r → reply.client.Holds hold (.ofRun (w.ids.runs + i)) r
        (List.replicate (hold + 1) .running ++ [.failed])) ∧
      (∀ r, runs.getLast? = some r → r.Reports failure.kind failure.text) ∧
      runs.IsChain StoredRun.PassesOn ∧
      (∀ r ∈ runs, ∃ kind before, r.Reports kind (before ++ failure.text)) ∧
      ∃ first message payload, runs.head? = some first ∧
        first.record.state.message = some message ∧
        first.record.state.data = some (.error payload) ∧
        reply.outcome = .error (.run (.failed .failed message (some payload))) := by
  obtain ⟨error, runs, left, hrun, hsurfaces, hsuffers⟩ :=
    exists_runFlow_failing hc hroom hreq hretries hp (body.keepsFrame_invoke limit)
      (fun invoked parameters inside hs hroom =>
        (hbody invoked parameters).exists_run hs hroom hl) hl
  refine ⟨_, _, runs, hrun, hsurfaces.names, hsuffers.held, fun r => hsurfaces.last,
    hsurfaces.chain, hsurfaces.suffix.2, ?_⟩
  cases hsurfaces with
  | run _ _ _ hstate => exact ⟨_, _, _, rfl, by rw [hstate]; rfl, by rw [hstate]; rfl, rfl⟩

/-- Fail by the error of a nested run. -/
def propagating (reply : RunReply) : Program :=
  .done (match reply.outcome with
    | .ok _ => .ok .null
    | .error error => .error { fault := .engine error })

theorem endsWith_propagating (reply : RunReply) (error : EngineError)
    (h : reply.outcome = .error error) :
    (propagating reply).EndsWith { fault := .engine error } := by
  rw [propagating, h]
  exact .done

/-- The error of a read that was not told what to read. -/
def pathless : Failure :=
  { fault := .validation { issues := [.missing "path"] }, contexts := ["no file"] }

/-- A body that fails through two other flows. The caller of one of them blocks its thread. -/
def delegating : Body := fun _ _ =>
  .runFlow { name := "fetch", capture := { causes := false } }
    (fun _ _ => .perform (.sleep 20) fun _ => .runFlow { name := "read" }
      (fun _ _ => .perform .look fun _ => .done (.error pathless)) {} propagating)
    { entry := .block } propagating

theorem runFlow_surfaces_delegating : ∃ reply left a b c payload,
    ({} : World).runFlow 3 (delegating.invoke 3) { name := "load" } heldOnce =
      some (reply, left) ∧
    [a, b, c].map (·.record.flowName) = ["load", "fetch", "read"] ∧
    (∀ i r, [a, b, c][i]? = some r →
      reply.client.Holds 1 (.ofRun (0 + i)) r [.running, .running, .failed]) ∧
    c.Reports "ParameterValidationError" "no file" ∧
    b.Reports "Error"
      "flow run FAILED: Flow run encountered an exception: ParameterValidationError: no file" ∧
    a.record.state.data = some (.error payload) ∧
    reply.outcome = .error (.run (.failed .failed ("Flow run encountered an exception: Error: " ++
      "flow run FAILED: Flow run encountered an exception: Error: " ++
      "flow run FAILED: Flow run encountered an exception: ParameterValidationError: no file")
      (some payload))) := by
  have hroom : ({ client := .inMemory { orchestrator := { hold := 1 } } } : World).HasRoom 1 3 :=
    ⟨⟨_, rfl, fun i hi => ⟨⟨rfl, rfl, rfl, rfl, rfl⟩, rfl, rfl, rfl, rfl⟩, by simp⟩, by decide⟩
  obtain ⟨reply, left, runs, hrun, hnames, hheld, hlast, hchain, -, a, message, payload,
      hfirst, hmessage, hdata, hout⟩ :=
    @runFlow_surfaces {} 3 1 { name := "load" } heldOnce delegating _ pathless
      [{ name := "fetch", capture := { causes := false } }, { name := "read" }]
      rfl hroom ⟨rfl, rfl, rfl⟩ rfl (.inr ⟨_, rfl⟩)
      (fun _ _ => .nests rfl (.inr ⟨_, rfl⟩) ⟨rfl, rfl, rfl⟩ rfl
        (fun _ _ => .perform rfl fun _ => .nests rfl (.inr ⟨_, rfl⟩) ⟨rfl, rfl, rfl⟩ rfl
          (fun _ _ => .perform rfl fun _ => .fails .done) endsWith_propagating)
        endsWith_propagating)
      (by decide)
  have hlength : runs.length = 3 := by simpa using congrArg List.length hnames
  obtain ⟨_, b, c, rfl⟩ := List.length_eq_three.1 hlength
  cases hfirst
  obtain ⟨hab, hbc⟩ : a.PassesOn b ∧ b.PassesOn c := by simpa using hchain
  have hc := hlast c rfl
  have hb := hbc.reports hc
  have ha := hab.reports hb
  cases hmessage.symm.trans ha.message
  exact ⟨reply, left, a, b, c, payload, hrun, hnames, hheld, hc, hb, hdata, hout⟩

end World

end RunEngine
