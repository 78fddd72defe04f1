import RunEngine.Proofs.InvalidParameters
import RunEngine.Proofs.Session

/-!
# One view of the state

The state of a run is kept in its record, in the scope that the body is shown, and once more in a
short-circuited engine. They are written at different moments, the scope is made anew with every
start, and a start may fail after some of them were written. That they never differ between two
operations is an invariant of the engine (`Engine.Sound`), kept by every operation
(`Engine.Sound.obey`).

What the state is, the calls tell: **`coherent_of_isNew`** says that it is the last one that the
orchestrator recorded, or else the one that the record came with. A short-circuited engine is one
for which the last proposal of all was recorded as the state it holds. It stays as it is, through
every further start.
-/

namespace RunEngine

/-- An engine that has one view of the state of its run. -/
structure Engine.Sound (e : Engine) : Prop where
  connected : ∀ scope, e.scope = some scope → e.connected = true
  scope : ∀ scope, e.scope = some scope → e.state? = some scope.state
  held : ∀ s, e.standing = .shortCircuited s → e.state? = some s

/-- The last proposal of all is one for which `s` was recorded. -/
def SettledAs (s : State) (own : List Event) : Prop :=
  ∃ earlier event later, own = earlier ++ event :: later ∧ event.recorded? = some s ∧
    ∀ e ∈ later, e.proposal? = none

variable {e e' : Engine} {w w' : World} {limit : Nat} {s t : State} {c : Command}
  {own own' : List Event}

theorem SettledAs.append (h : SettledAs s own) (h' : ∀ e ∈ own', e.proposal? = none) :
    SettledAs s (own ++ own') := by
  obtain ⟨earlier, event, later, rfl, hs, hlater⟩ := h
  exact ⟨earlier, event, later ++ own', by simp, hs, List.forall_mem_append.2 ⟨hlater, h'⟩⟩

theorem SettledAs.prepend (h : SettledAs s own') : SettledAs s (own ++ own') := by
  obtain ⟨earlier, event, later, rfl, hs, hlater⟩ := h
  exact ⟨own ++ earlier, event, later, by simp, hs, hlater⟩

theorem settledAs_of_answered {answers : List (Except ClientError Answer)} {id : Uuid}
    (h : Answered answers (.ok s)) : SettledAs s (answers.map (.propose id t)) := by
  obtain ⟨earlier, last, rfl, hlast⟩ := h.exists_last
  obtain ⟨answer, rfl, hs⟩ := conclusion?_eq_ok.1 hlast
  exact ⟨_, .propose id t (.ok answer), [], by rw [List.map_append]; rfl, hs, by simp⟩

namespace Engine

theorem IsNew.sound (h : e.IsNew) : e.Sound where
  connected scope hscope := absurd (hscope.symm.trans h.scope) (by simp)
  scope scope hscope := absurd (hscope.symm.trans h.scope) (by simp)
  held s hs := absurd (hs.symm.trans h.active) (by simp)

theorem Sound.scope_eq_none (h : e.Sound) (hc : e.connected = false) : e.scope = none := by
  cases hs : e.scope with
  | none => rfl
  | some scope => exact absurd ((h.connected scope hs).symm.trans hc) (by simp)

/-! ## Proposals -/

theorem standing_conclude (e : Engine) (r : Except EngineError State) :
    (e.conclude r).standing = e.standing := by
  cases r <;> rfl

theorem Proposes.standing {r : Except EngineError State} (h : e.Proposes w s r e' w') :
    e'.standing = e.standing := by
  cases h with
  | shortCircuited | notStarted | unrecorded => rfl
  | answered => exact standing_conclude ..

/-- A proposal that fails leaves the engine as it was. -/
theorem Proposes.eq_of_error {error : EngineError} (h : e.Proposes w s (.error error) e' w') :
    e' = e := by
  cases h <;> rfl

theorem Proposes.state? (h : e.Proposes w t (.ok s) e' w') (he : e.Sound) :
    e'.state? = some s := by
  cases h with
  | shortCircuited hs => exact he.held s hs
  | answered _ _ hr => exact state?_apply hr

theorem Sound.proposes {r : Except EngineError State} (he : e.Sound)
    (h : e.Proposes w s r e' w') : e'.Sound := by
  cases h with
  | shortCircuited | notStarted | unrecorded => exact he
  | @answered run _ r _ hactive hc hr =>
    cases r with
    | error => exact he
    | ok t =>
      exact {
        connected := fun _ _ => hc
        scope := fun scope hscope => by
          obtain ⟨_, -, rfl⟩ := Option.map_eq_some_iff.1 hscope
          exact state?_apply hr
        held := fun s hs => absurd (hs.symm.trans hactive) (by simp) }

/-- An engine that is short-circuited proposes nothing. -/
theorem Proposes.of_shortCircuited {r : Except EngineError State} (h : e.Proposes w t r e' w')
    (hs : e.standing = .shortCircuited s) : r = .ok s ∧ e' = e ∧ w' = w := by
  cases h with
  | shortCircuited hheld =>
    cases hs.symm.trans hheld
    exact ⟨rfl, rfl, rfl⟩
  | notStarted hactive | unrecorded hactive | answered hactive =>
    cases hs.symm.trans hactive

/-! ## Parameters -/

theorem Sound.checks {r : Except EngineError Unit} (he : e.Sound) (h : e.Checks w r e' w') :
    e'.Sound := by
  cases h with
  | settled => exact ⟨he.connected, he.scope, he.held⟩
  | @rejected s held e₁ _ hp =>
    have he₁ := he.proposes hp
    exact {
      connected := he₁.connected
      scope := he₁.scope
      held := fun t ht => by
        cases ht
        exact hp.state? he }
  | stopped hp => exact he.proposes hp

theorem Checks.of_shortCircuited {r : Except EngineError Unit} (h : e.Checks w r e' w')
    (hs : e.standing = .shortCircuited s) : e'.standing = .shortCircuited s ∧ w' = w := by
  cases h with
  | settled => exact ⟨hs, rfl⟩
  | rejected hp =>
    obtain ⟨hheld, -, rfl⟩ := hp.of_shortCircuited hs
    cases hheld
    exact ⟨rfl, rfl⟩
  | stopped hp => cases (hp.of_shortCircuited hs).1

/-- An engine becomes short-circuited by a proposal that was recorded. -/
theorem Checks.settledAs {r : Except EngineError Unit} (h : e.Checks w r e' w')
    (ha : e.standing = .active) (hs : e'.standing = .shortCircuited s) :
    ∃ own, w.Writes own w' ∧ SettledAs s own := by
  cases h with
  | settled => cases hs.symm.trans ha
  | rejected hp =>
    cases hs
    cases hp with
    | shortCircuited hheld => cases hheld.symm.trans ha
    | answered _ _ _ hans hw => exact ⟨_, hw, settledAs_of_answered hans⟩
  | stopped hp => cases hs.symm.trans (hp.standing.trans ha)

/-! ## Starting -/

/-- An engine that starts has the record it had, if it had one. -/
theorem Sound.recorded {nested : Bool} {run : FlowRun} (he : e.Sound)
    (hc : e.connected = false) (h : Recording nested e.record own (.ok run)) :
    Sound { e with connected := true, record := some run } where
  connected _ _ := rfl
  scope scope hscope := absurd (hscope.symm.trans (he.scope_eq_none hc)) (by simp)
  held s hs := by
    -- A short-circuited engine has a record, so the start did not create another one.
    have hstate := he.held s hs
    cases hr : e.record with
    | none => simp [Engine.state?, hr] at hstate
    | some given =>
      rw [hr] at h
      cases h
      rwa [Engine.state?, hr] at hstate

theorem Sound.openScope (he : e.Sound) (hc : e.connected = true) : e.openScope.Sound where
  connected _ _ := hc
  scope scope hscope := by
    obtain ⟨run, hr, rfl⟩ := Option.map_eq_some_iff.1 hscope
    exact congrArg (Option.map _) hr
  held := he.held

theorem Sound.starts {r : Except EngineError Unit} (he : e.Sound) (h : e.Starts w r e' w') :
    e'.Sound := by
  cases h with
  | already | refused | unrecorded => exact he
  | stopped hc _ hrecording _ hchecks =>
    have he' := he.recorded hc hrecording
    obtain ⟨⟩ | ⟨⟩ | hp := hchecks
    rw [hp.eq_of_error]
    exact {
      connected := fun scope hscope => absurd (hscope.symm.trans (he.scope_eq_none hc)) (by simp)
      scope := he'.scope
      held := he'.held }
  | started hc _ hrecording _ hchecks =>
    exact ((he.recorded hc hrecording).checks hchecks).openScope hchecks.connected

theorem Starts.of_shortCircuited {r : Except EngineError Unit} (h : e.Starts w r e' w')
    (hs : e.standing = .shortCircuited s) :
    e'.standing = .shortCircuited s ∧ w.WritesOnly (·.proposal? = none) w' := by
  have hrecord {own : List Event} {outcome : Except EngineError FlowRun} {w₁ w₂ : World}
      (hw : w.Writes [.connect (.ok ())] w₁) (hrecording : Recording w.nested e.record own outcome)
      (hown : w₁.Writes own w₂) : w.WritesOnly (·.proposal? = none) w₂ := by
    have hopen : w.WritesOnly (·.proposal? = none) w₁ := hw.only rfl
    exact hopen.trans ⟨own, hown, hrecording.proposal?⟩
  cases h with
  | already => exact ⟨hs, .refl ..⟩
  | refused _ hw => exact ⟨hs, hw.only rfl⟩
  | unrecorded _ hw hrecording hown =>
    exact ⟨hs, (hrecord hw hrecording hown).trans ((World.writes_close _).only rfl)⟩
  | stopped _ hw hrecording hown hchecks =>
    obtain ⟨hs', rfl⟩ := hchecks.of_shortCircuited hs
    exact ⟨hs', (hrecord hw hrecording hown).trans ((World.writes_close _).only rfl)⟩
  | started _ hw hrecording hown hchecks =>
    obtain ⟨hs', rfl⟩ := hchecks.of_shortCircuited hs
    exact ⟨hs', hrecord hw hrecording hown⟩

theorem Starts.settledAs {r : Except EngineError Unit} (h : e.Starts w r e' w')
    (ha : e.standing = .active) (hs : e'.standing = .shortCircuited s) :
    SettledAs s (w.conduct w') := by
  cases h with
  | already | refused | unrecorded => cases hs.symm.trans ha
  | stopped _ _ _ _ hchecks =>
    obtain ⟨⟩ | ⟨⟩ | hp := hchecks
    cases hs.symm.trans (hp.standing.trans ha)
  | started _ hw _ hown hchecks =>
    obtain ⟨proposals, hw', hsettled⟩ := hchecks.settledAs ha hs
    rw [((hw.trans hown).trans hw').conduct]
    exact hsettled.prepend

/-! ## Any operation -/

theorem standing_finish (e : Engine) (w : World) : (e.finish w).1.standing = e.standing := by
  cases hc : e.connected with
  | false => rw [finish_of_not_connected hc]
  | true =>
    obtain ⟨w₁, -, hfinish⟩ := exists_finish hc w
    rw [hfinish]

theorem Sound.finish (he : e.Sound) (w : World) : (e.finish w).1.Sound := by
  cases hc : e.connected with
  | false => rwa [finish_of_not_connected hc]
  | true =>
    obtain ⟨w₁, -, hfinish⟩ := exists_finish hc w
    rw [hfinish]
    exact ⟨by simp, by simp, he.held⟩

theorem writesOnly_finish (e : Engine) (w : World) :
    w.WritesOnly (·.proposal? = none) (e.finish w).2 := by
  cases hc : e.connected with
  | false =>
    rw [finish_of_not_connected hc]
    exact .refl ..
  | true =>
    obtain ⟨w₁, hquiet, hfinish⟩ := exists_finish hc w
    rw [hfinish]
    refine (hquiet.mono fun event hcall => ?_).trans (w₁.writes_close.only rfl)
    cases event with
    | propose => cases hcall
    | _ => rfl

/-- **Every operation keeps the one view of the state.** -/
theorem Sound.obey {r : Except EngineError c.Reply} (he : e.Sound)
    (h : e.obey limit w c = some (r, e', w')) : e'.Sound := by
  cases hp : c.proposes with
  | true =>
    obtain ⟨t, outcome, hset, -⟩ := exists_setState_of_obey hp h
    exact he.proposes (proposes_setState hset)
  | false =>
    cases c with
    | start => exact he.starts (starts_start h)
    | finish =>
      cases h
      exact he.finish w
    | beginRun | setState | handleSuccess | handleException => cases hp

/-- A short-circuited engine stays so, and proposes nothing. -/
theorem obey_of_shortCircuited {r : Except EngineError c.Reply}
    (h : e.obey limit w c = some (r, e', w')) (hs : e.standing = .shortCircuited s) :
    e'.standing = .shortCircuited s ∧ w.WritesOnly (·.proposal? = none) w' := by
  cases hp : c.proposes with
  | true =>
    obtain ⟨t, outcome, hset, -⟩ := exists_setState_of_obey hp h
    obtain ⟨-, rfl, rfl⟩ := (proposes_setState hset).of_shortCircuited hs
    exact ⟨hs, .refl ..⟩
  | false =>
    cases c with
    | start => exact (starts_start h).of_shortCircuited hs
    | finish =>
      cases h
      exact ⟨(standing_finish e w).trans hs, writesOnly_finish e w⟩
    | beginRun | setState | handleSuccess | handleException => cases hp

/-- An engine is short-circuited only by a start, whose last proposal was recorded. -/
theorem settledAs_obey {r : Except EngineError c.Reply}
    (h : e.obey limit w c = some (r, e', w')) (ha : e.standing = .active)
    (hs : e'.standing = .shortCircuited s) : SettledAs s (w.conduct w') := by
  cases hp : c.proposes with
  | true =>
    obtain ⟨t, outcome, hset, -⟩ := exists_setState_of_obey hp h
    cases hs.symm.trans ((proposes_setState hset).standing.trans ha)
  | false =>
    cases c with
    | start => exact (starts_start h).settledAs ha hs
    | finish =>
      cases h
      cases hs.symm.trans ((standing_finish e w).trans ha)
    | beginRun | setState | handleSuccess | handleException => cases hp

end Engine

/-! ## Sessions -/

namespace Session

theorem sound (h : Session e own e') (he : e.Sound) : e'.Sound := by
  induction h with
  | nil => exact he
  | step _ hobey ih => exact ih.obey hobey

theorem of_shortCircuited (h : Session e own e') (hs : e.standing = .shortCircuited s) :
    e'.standing = .shortCircuited s ∧ ∀ event ∈ own, event.proposal? = none := by
  induction h with
  | nil => exact ⟨hs, by simp⟩
  | step _ hobey ih =>
    obtain ⟨hs', hown⟩ := ih
    obtain ⟨hs'', hnext⟩ := Engine.obey_of_shortCircuited hobey hs'
    exact ⟨hs'', List.forall_mem_append.2 ⟨hown, hnext.conduct⟩⟩

theorem settledAs (h : Session e own e') (ha : e.standing = .active)
    (hs : e'.standing = .shortCircuited s) : SettledAs s own := by
  induction h with
  | nil => cases hs.symm.trans ha
  | @step e₁ _ _ _ _ _ _ _ _ hobey ih =>
    -- Either this operation short-circuited the engine, or it came after the one that did.
    cases hstanding : e₁.standing with
    | active => exact (Engine.settledAs_obey hobey hstanding hs).prepend
    | shortCircuited held =>
      obtain ⟨hs', hnone⟩ := Engine.obey_of_shortCircuited hobey hstanding
      cases hs.symm.trans hs'
      exact (ih hstanding).append hnone.conduct

/-- **One view of the state**, whatever an engine is made to do and whatever it is answered: it is
the last state that was recorded, the scope shows no other, and a proposal that fails changes
nothing. Once the engine is short-circuited, the state it holds stays and nothing more is
proposed. -/
theorem coherent_of_isNew (hnew : e.IsNew) (h : Session e own e') :
    e'.state? = (own.filterMap Event.recorded?).getLast?.or
      ((e.record.or (own.findSome? Event.created?)).map (·.state)) ∧
    (∀ scope, e'.scope = some scope → e'.state? = some scope.state) ∧
    (∀ {limit w} {c : Command} {error e'' w'}, c.proposes →
      e'.obey limit w c = some (.error error, e'', w') → e'' = e') ∧
    ∀ s, e'.standing = .shortCircuited s → SettledAs s own ∧
      ∀ {own' e''}, Session e' own' e'' →
        e''.standing = .shortCircuited s ∧ e''.state? = some s ∧
        e''.isPending = false ∧ e''.isRunning = false ∧
        (∀ limit w t, e''.setState limit w t = some (.ok s, e'', w)) ∧
        ∀ event ∈ own', event.proposal? = none := by
  have hsound := h.sound hnew.sound
  refine ⟨h.contact.state_record, hsound.scope, fun hc hobey => ?_,
    fun s hs => ⟨h.settledAs hnew.active hs, fun hlater => ?_⟩⟩
  · obtain ⟨t, outcome, hset, houtcome⟩ := Engine.exists_setState_of_obey hc hobey
    obtain rfl := (houtcome _).1 rfl
    exact (Engine.proposes_setState hset).eq_of_error
  · obtain ⟨hs', hnone⟩ := hlater.of_shortCircuited hs
    have hstate := (hlater.sound hsound).held s hs'
    refine ⟨hs', hstate, ?_, ?_, fun limit w t => ?_, hnone⟩
    · simp [Engine.isPending, Engine.isShortCircuited, hs']
    · simp [Engine.isRunning, Engine.isShortCircuited, hs']
    · simp [Engine.setState, hs']

theorem coherent_of_isNew_detours : ∃ e w,
    ({ flow := World.strict } : Engine).obeyAll 3 detours unsteady = some (e, w) ∧
    e.standing = .shortCircuited (.running default) ∧
    SettledAs (.running default) (unsteady.conduct w) ∧
    e.state? = some (.running default) ∧ e.isRunning = false := by
  have hstanding : (({ flow := World.strict } : Engine).obeyAll 3 detours unsteady).map
      (·.1.standing) = some (.shortCircuited (.running default)) := by decide +kernel
  obtain ⟨⟨e, w⟩, hobey, hs⟩ := Option.map_eq_some_iff.1 hstanding
  obtain ⟨-, -, -, hshort⟩ := coherent_of_isNew ⟨rfl, rfl, rfl⟩ (session_obeyAll hobey)
  obtain ⟨hsettled, hlater⟩ := hshort _ hs
  obtain ⟨-, hstate, -, hrunning, -⟩ := hlater .nil
  exact ⟨e, w, hobey, hs, hsettled, hstate, hrunning⟩

end Session

end RunEngine
