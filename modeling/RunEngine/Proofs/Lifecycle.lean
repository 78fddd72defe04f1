import RunEngine.Proofs.InvalidParameters
import RunEngine.Proofs.Session

/-!
# The life of an engine

An engine may be started and finished again and again, and anything may fail on the way: the
connection, the task run, the record, the proposal for a run with invalid parameters. Whatever was
asked of it and whatever it was answered, **`lifecycle_of_isNew`** holds:

* connecting and closing take turns, and the engine is started while it was connected once more
  than it was closed;
* its client is made the calls that the journal shows, and has them on record if it keeps one;
* a start that fails closes the client that it opened, as the last thing it does;
* to start a started engine, or to finish one that is not started, changes nothing;
* there is one record for the whole life of the engine, and all proposals are for it.

The first and the last are facts about moves (`Session.contact`), the second is what it means to
write in the journal (`World.Writes`), and the other two are read off the ways in which a start may
end (`Engine.Starts`).
-/

namespace RunEngine

/-- Connecting and closing take turns, beginning with connecting: at any point a client was
connected as often as it was closed, or once more. -/
def TakeTurns (own : List Event) : Prop :=
  ∀ earlier, earlier <+: own →
    earlier.countP Event.closes ≤ earlier.countP Event.opens ∧
    earlier.countP Event.opens ≤ earlier.countP Event.closes + 1

/-- The calls of a start that fails: the client was not connected, or it was closed in the end. -/
inductive FailedStart : List Event → Prop
  | refused {error : ClientError} : FailedStart [.connect (.error error)]
  | stopped {calls : List Event} :
      (∀ call ∈ calls, call.opens = false ∧ call.closes = false) →
      FailedStart (.connect (.ok ()) :: calls ++ [.close])

variable {e e' : Engine} {w w' : World} {own : List Event}

namespace Contact

variable {c c' : Contact}

theorem Steps.takeTurns (h : c.Steps own c') (hc : c.isOpen = false) : TakeTurns own := by
  rintro earlier ⟨later, rfl⟩
  obtain ⟨c₁, hearlier, -⟩ := h.exists_split
  have hcount := hearlier.countP_opens
  rw [hc] at hcount
  have hle := c₁.isOpen.toNat_le
  simp only [Bool.toNat_false] at hcount
  omega

/-- The client is open where it was connected once more than it was closed. -/
theorem Steps.isOpen_iff (h : c.Steps own c') (hc : c.isOpen = false) :
    c'.isOpen = true ↔ own.countP Event.opens = own.countP Event.closes + 1 := by
  have hcount := h.countP_opens
  rw [hc] at hcount
  cases ho : c'.isOpen <;> rw [ho] at hcount <;> simp at hcount ⊢ <;> omega

end Contact

namespace Engine

theorem Starts.failedStart {error : EngineError} (h : e.Starts w (.error error) e' w') :
    e'.connected = false ∧ FailedStart (w.conduct w') := by
  cases h with
  | refused hc hw =>
    rw [hw.conduct]
    exact ⟨hc, .refused⟩
  | unrecorded hc hw hrecording hown =>
    rw [((hw.trans hown).trans (World.writes_close _)).conduct]
    exact ⟨hc, .stopped hrecording.turns⟩
  | stopped hc hw hrecording hown hchecks =>
    obtain ⟨⟨proposals, hw', hp⟩, -⟩ := hchecks.writes rfl
    rw [(((hw.trans hown).trans hw').trans (World.writes_close _)).conduct,
      List.append_assoc [Event.connect (.ok ())]]
    have hcalls := List.forall_mem_append.2
      ⟨hrecording.turns, fun call hcall => (hp call hcall).turns⟩
    exact ⟨rfl, .stopped hcalls⟩

end Engine

namespace Session

/-- **The life of an engine**, whatever it is made to do and whatever it is answered: its client is
connected and closed in turns, as the client itself has on record, a start that fails leaves nothing
open, what was done already is not done again, and it has one record, created once at most, for
which it makes all its proposals. -/
theorem lifecycle_of_isNew (hnew : e.IsNew) (h : Session e own e') :
    TakeTurns own ∧
    (e'.connected = true ↔ own.countP Event.opens = own.countP Event.closes + 1) ∧
    (∀ {limit w c r e'' w'}, e'.obey limit w c = some (r, e'', w') →
      w.client.Handles (w.conduct w') w'.client ∧ ∀ a, w.client = .inMemory a →
        ∃ b, w'.client = .inMemory b ∧ a.Tallies (w.conduct w') b) ∧
    (∀ {limit w error e'' w'}, e'.start limit w = some (.error error, e'', w') →
      e''.connected = false ∧ FailedStart (w.conduct w')) ∧
    (e'.connected = true → ∀ limit w, e'.start limit w = some (.ok (), e', w)) ∧
    (e'.connected = false → ∀ w, e'.finish w = (e', w)) ∧
    (own.filterMap Event.created?).length ≤ 1 ∧
    (e.record.isSome → ∀ request answer, .createFlowRun request answer ∉ own) ∧
    ∀ earlier id s answer later, own = earlier ++ .propose id s answer :: later →
      earlier.countP Event.opens = earlier.countP Event.closes + 1 ∧
      (e.record.or (earlier.findSome? Event.created?)).map (·.id) = some id := by
  have hsteps := h.contact
  have hclosed : e.contact.isOpen = false := hnew.connected
  refine ⟨hsteps.takeTurns hclosed, hsteps.isOpen_iff hclosed, fun hobey => ?_,
    fun hstart => (Engine.starts_start hstart).failedStart, fun hc limit w => ?_,
    fun hc w => Engine.finish_of_not_connected hc w, ?_,
    fun hr => hsteps.not_mem_createFlowRun hr, ?_⟩
  · have hhandles := Engine.handles_obey hobey
    exact ⟨hhandles, fun a ha => Client.Handles.exists_tallies (ha ▸ hhandles)⟩
  · simp [Engine.start, hc]
  · exact Nat.le_trans (Nat.le_add_left ..) hsteps.length_created?_le
  · rintro earlier id s answer later rfl
    obtain ⟨run, rfl, hearlier⟩ := hsteps.of_propose
    exact ⟨(hearlier.isOpen_iff hclosed).1 rfl, hearlier.id_record.symm⟩

theorem lifecycle_of_isNew_detours : ∃ e w c,
    ({ flow := World.strict } : Engine).obeyAll 3 detours unsteady = some (e, w) ∧
    e.connected = true ∧
    (unsteady.conduct w).countP Event.opens = (unsteady.conduct w).countP Event.closes + 1 ∧
    TakeTurns (unsteady.conduct w) ∧
    w.client = .inMemory c ∧ c.calls = (unsteady.conduct w).filterMap Event.call? := by
  have hconnected : (({ flow := World.strict } : Engine).obeyAll 3 detours unsteady).map
      (·.1.connected) = some true := by decide +kernel
  obtain ⟨⟨e, w⟩, hobey, hc⟩ := Option.map_eq_some_iff.1 hconnected
  obtain ⟨hturns, hcount, -⟩ := lifecycle_of_isNew ⟨rfl, rfl, rfl⟩ (session_obeyAll hobey)
  obtain ⟨own, hw, -⟩ := writes_obeyAll hobey
  obtain ⟨c, hclient, htallies⟩ := hw.client.exists_tallies
  exact ⟨e, w, c, hobey, hc, hcount.1 hc, hturns, hclient, hw.conduct ▸ htallies.calls⟩

end Session

end RunEngine
