import RunEngine.Proofs.Likeness

/-!
# Clients that differ in their logs and scripts

What a client in memory answers does not depend on its log, and unless it is asked to record a state
it does not depend on the answers that are prepared for proposals either (`LocalClient.Notes`). So
two clients that differ in nothing else (`Client.Apart`) stay that way, whatever relation of logs
and prepared answers it is that a call keeps: **`Likeness.keeps_of_apart`**.
-/

namespace RunEngine

namespace LocalClient

/-- An operation puts the call into the log. It neither goes by the log nor by the answers that are
prepared for proposals, and uses none of them. -/
def Notes {α : Type} (call : Call) (f : LocalClient → α × LocalClient) : Prop :=
  ∀ c calls answers, f { c with calls, answers } =
    ((f c).1, { (f c).2 with calls := calls ++ [call], answers })

theorem notes_connect : Notes .connect connect := by
  intro c calls answers
  simp only [connect, note]
  split <;> rfl

theorem notes_close : Notes .close fun c => ((), c.close) := fun _ _ _ => rfl

theorem notes_fork : Notes .fork fork := by
  intro c calls answers
  simp only [fork, note]
  split <;> rfl

theorem notes_createFlowRun (ids : IdSupply) (time : Timestamp) (request : FlowRunRequest) :
    Notes (.createFlowRun request) fun c =>
      (((c.createFlowRun ids time request).1, (c.createFlowRun ids time request).2.2),
        (c.createFlowRun ids time request).2.1) := by
  intro c calls answers
  simp only [createFlowRun, note]
  split <;> rfl

theorem notes_createTaskRun (ids : IdSupply) (request : TaskRunRequest) :
    Notes (.createTaskRun request) fun c =>
      (((c.createTaskRun ids request).1, (c.createTaskRun ids request).2.2),
        (c.createTaskRun ids request).2.1) := by
  intro c calls answers
  simp only [createTaskRun, note]
  split <;> rfl

variable {α : Type} {call : Call} {f : LocalClient → α × LocalClient}

theorem Notes.calls (h : Notes call f) (c : LocalClient) : (f c).2.calls = c.calls ++ [call] :=
  congrArg (fun x => x.2.calls) (h c c.calls c.answers)

theorem Notes.answers (h : Notes call f) (c : LocalClient) : (f c).2.answers = c.answers :=
  congrArg (fun x => x.2.answers) (h c c.calls c.answers)

end LocalClient

namespace Client

/-- The clients are the same, up to their logs and the answers that they have prepared for
proposals. These stand to each other as `R` says. Clients of a remote API are the same, where there
are any. -/
inductive Apart (R : List Call → Script Answer → List Call → Script Answer → Prop)
    (remotes : Prop) : Client → Client → Prop
  | inMemory (c : LocalClient) {calls : List Call} {answers : Script Answer} :
      R c.calls c.answers calls answers →
      Apart R remotes (.inMemory c) (.inMemory { c with calls, answers })
  | remote (c : RemoteClient) : remotes → Apart R remotes (.remote c) (.remote c)

variable {R R' : List Call → Script Answer → List Call → Script Answer → Prop}
  {remotes remotes' : Prop} {c c' : Client}

theorem Apart.mono (hR : ∀ {a s a' s'}, R a s a' s' → R' a s a' s') (hm : remotes → remotes')
    (h : c.Apart R remotes c') : c.Apart R' remotes' c' := by
  cases h with
  | inMemory c hr => exact .inMemory c (hR hr)
  | remote c hc => exact .remote c (hm hc)

theorem Apart.symm (hR : ∀ {a s a' s'}, R a s a' s' → R' a' s' a s) (h : c.Apart R remotes c') :
    c'.Apart R' remotes c := by
  cases h with
  | inMemory c hr => exact .inMemory { c with calls := _, answers := _ } (hR hr)
  | remote c hc => exact .remote c hc

end Client

/-- An operation that puts a call into the log of both clients. -/
theorem LocalClient.Notes.apart {α : Type} {call : Call} {f : LocalClient → α × LocalClient}
    {R : List Call → Script Answer → List Call → Script Answer → Prop} {remotes : Prop}
    (h : Notes call f)
    (hR : ∀ {a s a' s'} (call : Call), R a s a' s' → R (a ++ [call]) s (a' ++ [call]) s')
    {c : LocalClient} {calls : List Call} {answers : Script Answer}
    (hr : R c.calls c.answers calls answers) :
    (f { c with calls, answers }).1 = (f c).1 ∧
      Client.Apart R remotes (.inMemory (f c).2) (.inMemory (f { c with calls, answers }).2) := by
  rw [h c calls answers]
  refine ⟨rfl, .inMemory _ ?_⟩
  rw [h.calls, h.answers]
  exact hR call hr

/-- **Clients that differ in their logs and scripts give the same answers**, except to proposals. -/
theorem Likeness.keeps_of_apart {l : Likeness}
    {R : List Call → Script Answer → List Call → Script Answer → Prop} {remotes : Prop}
    (hl : l.client = Client.Apart R remotes)
    (hR : ∀ {a s a' s'} (call : Call), R a s a' s' → R (a ++ [call]) s (a' ++ [call]) s')
    (record : ∀ {es es' : List (Nat × Event)} (e : Nat × Event), l.events es es' →
      l.events (es ++ [e]) (es' ++ [e])) : l.Keeps where
  record := record
  connect := by
    rw [hl]
    rintro _ _ (⟨c, hr⟩ | ⟨c, hc⟩)
    · exact LocalClient.notes_connect.apart hR hr
    · exact ⟨rfl, .remote _ hc⟩
  close := by
    rw [hl]
    rintro _ _ (⟨c, hr⟩ | ⟨c, hc⟩)
    · exact (LocalClient.notes_close.apart hR hr).2
    · exact .remote _ hc
  fork := by
    rw [hl]
    rintro _ _ (⟨c, hr⟩ | ⟨c, hc⟩)
    · exact LocalClient.notes_fork.apart hR hr
    · exact ⟨rfl, .remote _ hc⟩
  createTaskRun := by
    rw [hl]
    rintro _ _ ids request (⟨c, hr⟩ | ⟨c, hc⟩)
    · obtain ⟨h, hc⟩ := (LocalClient.notes_createTaskRun ids request).apart hR hr
      exact ⟨(Prod.mk.inj h).1, hc, (Prod.mk.inj h).2⟩
    · exact ⟨rfl, .remote _ hc, rfl⟩
  createFlowRun := by
    rw [hl]
    rintro _ _ ids time request (⟨c, hr⟩ | ⟨c, hc⟩)
    · obtain ⟨h, hc⟩ := (LocalClient.notes_createFlowRun ids time request).apart hR hr
      exact ⟨(Prod.mk.inj h).1, hc, (Prod.mk.inj h).2⟩
    · exact ⟨rfl, .remote _ hc, rfl⟩

end RunEngine
