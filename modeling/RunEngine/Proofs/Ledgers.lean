import Mathlib.Algebra.Group.Nat.Defs
import Mathlib.Data.List.Induction
import RunEngine.Proofs.Children

/-!
# The ledgers of scopes

The scope of a run counts how often it was asked for a key, by task key. What it counts is its
ledger, and `Ledger.Shows.next` says that it counts right: the next key is the number of calls for
its task key so far, and other counters stay as they are. Calls of which each got that number are
calls in turn (`InTurn`), and no two of them have the same task key and the same key as long as
there are fewer for a task key than a counter can hold (`InTurn.nodup`).

What an engine does itself leaves all ledgers alone (`World.Spares`), except that its run, when it
is registered as a task, takes one key of the scope around it (`World.Enlists`). It does so before
the client is asked to create the task: if that fails the key is gone.
-/

namespace RunEngine

/-! ## Counters -/

/-- Of which run a scope is, and how often it was asked for a key, by task key. -/
structure Ledger where
  run : Uuid
  counters : Dict UInt32

def Scope.ledger (s : Scope) : Ledger := { run := s.runId, counters := s.dynamicKeys }

/-- The run is `id`, and keys were asked for under the task keys `asked`. -/
structure Ledger.Shows (l : Ledger) (id : Uuid) (asked : List String) : Prop where
  run : l.run = id
  counters : ∀ k, (l.counters.get? k).getD 0 = UInt32.ofNat (asked.count k)

/-- **A scope counts.** The next key is the number of calls for its task key so far, and no other
counter changes. -/
theorem Ledger.Shows.next {s : Scope} {id : Uuid} {asked : List String}
    (h : s.ledger.Shows id asked) (k : String) :
    (s.nextDynamicKey k).1 = toString (asked.count k % 2 ^ 32) ∧
      (s.nextDynamicKey k).2.ledger.Shows id (asked ++ [k]) := by
  have hcounter : (s.dynamicKeys.get? k).getD 0 = UInt32.ofNat (asked.count k) := h.counters k
  refine ⟨?_, h.run, fun other => ?_⟩
  · rw [Scope.nextDynamicKey, hcounter, UInt32.toNat_ofNat']
  · simp only [Scope.nextDynamicKey, Scope.ledger, Dict.get?_insert, List.count_append]
    by_cases hk : k = other
    · subst hk
      rw [if_pos rfl, Option.getD_some, hcounter, List.count_singleton_self, UInt32.ofNat_add]
      rfl
    · rw [if_neg hk, List.count_singleton, beq_false_of_ne hk, if_neg Bool.false_ne_true,
        Nat.add_zero]
      exact h.counters other

theorem Ledger.shows_of_empty {s : Scope} (h : s.dynamicKeys = ∅) :
    s.ledger.Shows s.runId [] := by
  refine ⟨rfl, fun k => ?_⟩
  rw [Scope.ledger, h]
  rfl

/-- The scope once it was asked for keys under these task keys. -/
def Scope.askAll (s : Scope) (asked : List String) : Scope :=
  asked.foldl (fun s k => (s.nextDynamicKey k).2) s

theorem Ledger.Shows.askAll {s : Scope} {id : Uuid} {asked : List String}
    (h : s.ledger.Shows id asked) (more : List String) :
    (s.askAll more).ledger.Shows id (asked ++ more) := by
  induction more generalizing s asked with
  | nil => simpa [Scope.askAll] using h
  | cons k more ih =>
    have hall := ih (h.next k).2
    rwa [List.append_assoc, List.singleton_append] at hall

/-! ## Calls -/

/-- What a client was asked for when a run was to be registered as a task, and what it answered. -/
abbrev Registration := TaskRunRequest × Except ClientError TaskRun

/-- The registration that an event is. -/
def Event.registration? : Event → Option Registration
  | createTaskRun request answer => some (request, answer)
  | _ => none

/-- The registration that an event in a journal is, if it is one of an engine at that depth. -/
def Event.registrationAt (depth : Nat) (event : Nat × Event) : Option Registration :=
  if event.1 = depth then event.2.registration? else none

theorem Event.registrationAt_of_eq_none {depth n : Nat} {e : Event} (h : e.registration? = none) :
    registrationAt depth (n, e) = none := by
  rw [registrationAt, h, ite_self]

/-- A call for a key of a scope. -/
inductive KeyCall where
  /-- The body asked itself. -/
  | asked (taskKey key : String)
  /-- A run of the flow was to be registered as a task. -/
  | registered (flow : Flow) (registration : Registration)

namespace KeyCall

/-- The task key that the call is for. -/
def taskKey : KeyCall → String
  | asked taskKey _ => taskKey
  | registered flow _ => flow.taskKey

/-- The key that was given. -/
def key : KeyCall → String
  | asked _ key => key
  | registered _ (request, _) => request.dynamicKey

def registration? : KeyCall → Option Registration
  | asked .. => none
  | registered _ registration => some registration

/-- If a task was to be created, then in the run `id`, for the task key of the call, and with a name
made from the flow's and the key. -/
def IsFor (id : Uuid) : KeyCall → Prop
  | asked .. => True
  | registered flow (request, _) => request.flowRun = id ∧ request.taskKey = flow.taskKey ∧
      request.name = flow.name ++ "-" ++ request.dynamicKey

end KeyCall

/-- The calls, after those for the task keys `asked`, are calls of a body in the run `id`, and each
got the number of those for its task key that came before it. -/
def InTurn (id : Uuid) : (asked : List String) → List KeyCall → Prop
  | _, [] => True
  | asked, call :: later =>
    call.key = toString (asked.count call.taskKey % 2 ^ 32) ∧ call.IsFor id ∧
      InTurn id (asked ++ [call.taskKey]) later

variable {id : Uuid} {asked : List String} {calls more earlier later : List KeyCall}
  {call : KeyCall}

theorem inTurn_append : InTurn id asked (calls ++ more) ↔
    InTurn id asked calls ∧ InTurn id (asked ++ calls.map (·.taskKey)) more := by
  induction calls generalizing asked with
  | nil => simp [InTurn]
  | cons call calls ih => simp [InTurn, ih, and_assoc]

theorem InTurn.key (h : InTurn id [] (earlier ++ call :: later)) :
    call.key = toString (earlier.countP (·.taskKey = call.taskKey) % 2 ^ 32) := by
  have hkey := (inTurn_append.1 h).2.1
  rw [List.nil_append, List.count, List.countP_map] at hkey
  exact hkey

theorem InTurn.isFor (h : InTurn id asked calls) (hc : call ∈ calls) : call.IsFor id := by
  obtain ⟨earlier, later, rfl⟩ := List.append_of_mem hc
  exact (inTurn_append.1 h).2.2.1

/-- Calls that come in pieces are in turn if every piece is, after those before it. -/
theorem inTurn_flatMap {f : Visit → List KeyCall} {vs : List Visit}
    (h : ∀ earlier v later, vs = earlier ++ v :: later →
      InTurn id (asked ++ (earlier.flatMap f).map (·.taskKey)) (f v)) :
    InTurn id asked (vs.flatMap f) := by
  induction vs generalizing asked with
  | nil => trivial
  | cons v vs ih =>
    rw [List.flatMap_cons, inTurn_append]
    refine ⟨by simpa using h [] v vs rfl, ih fun earlier v' later hvs => ?_⟩
    subst hvs
    have hv' := h (v :: earlier) v' later rfl
    rwa [List.flatMap_cons, List.map_append, ← List.append_assoc] at hv'

theorem toString_nat_injective {m n : Nat} (h : toString m = toString n) : m = n := by
  have hdigits := congrArg (fun s => Nat.ofDigitChars 10 s.toList 0) h
  simpa [Nat.toString_eq_ofList_toDigits] using hdigits

/-- Calls for one task key get different keys. -/
theorem InTurn.pairwise (h : InTurn id [] calls)
    (hcount : ∀ k, calls.countP (·.taskKey = k) < 2 ^ 32) :
    calls.Pairwise fun a b => a.taskKey = b.taskKey → a.key ≠ b.key := by
  induction calls using List.reverseRecOn with
  | nil => exact .nil
  | append_singleton calls call ih =>
    have hbound (k : String) (more : List KeyCall) (hsub : more.Sublist (calls ++ [call])) :
        more.countP (·.taskKey = k) % 2 ^ 32 = more.countP (·.taskKey = k) :=
      Nat.mod_eq_of_lt (Nat.lt_of_le_of_lt hsub.countP_le (hcount k))
    refine List.pairwise_append.2 ⟨ih (inTurn_append.1 h).1 fun k => ?_, List.pairwise_singleton ..,
      fun a ha b hb htask hkey => ?_⟩
    · exact Nat.lt_of_le_of_lt (List.sublist_append_left ..).countP_le (hcount k)
    · obtain rfl := List.mem_singleton.1 hb
      obtain ⟨earlier, later, rfl⟩ := List.append_of_mem ha
      rw [h.key, InTurn.key (List.append_assoc .. ▸ h), hbound _ _ (List.sublist_append_left ..),
        hbound _ _ (by simp), htask] at hkey
      have hnumber := toString_nat_injective hkey
      simp [List.countP_append, htask] at hnumber

/-- **No two tasks that a run registers have the same task key and the same key.** -/
theorem InTurn.nodup (h : InTurn id [] calls)
    (hcount : ∀ k, calls.countP (·.taskKey = k) < 2 ^ 32) :
    ((calls.filterMap KeyCall.registration?).map fun r => (r.1.taskKey, r.1.dynamicKey)).Nodup := by
  rw [List.nodup_iff_pairwise_ne, List.pairwise_map, List.pairwise_filterMap]
  refine (h.pairwise hcount).imp_of_mem fun {a b} ha hb hne r hr r' hr' heq => ?_
  cases a <;> cases hr
  cases b <;> cases hr'
  obtain ⟨htask, hkey⟩ := Prod.mk.inj heq
  have hfor := h.isFor ha
  have hfor' := h.isFor hb
  exact hne (hfor.2.1.symm.trans (htask.trans hfor'.2.1)) hkey

/-! ## What is registered on the way -/

namespace World

variable {w w' w'' : World} {P : Event → Prop} {own : List Event} {depth : Nat}
  {made further : List Registration} {flow : Flow}

/-- What engines at a depth registered between `w` and `w'`, in order. -/
def registrations (w w' : World) (depth : Nat) : List Registration :=
  (w'.journal.events.drop w.journal.events.length).filterMap (Event.registrationAt depth)

/-- `w'` comes after `w`, and in between engines at that depth registered `made`. -/
structure Registers (w : World) (depth : Nat) (made : List Registration) (w' : World) : Prop where
  length : w'.scopes.length = w.scopes.length
  events : ∃ es, w'.journal.events = w.journal.events ++ es ∧
    es.filterMap (Event.registrationAt depth) = made

theorem Registers.registrations (h : w.Registers depth made w') :
    w.registrations w' depth = made := by
  obtain ⟨es, he, hm⟩ := h.events
  rw [World.registrations, he, List.drop_left, hm]

theorem Registers.refl (w : World) (depth : Nat) : w.Registers depth [] w :=
  ⟨rfl, [], (List.append_nil _).symm, rfl⟩

theorem Registers.trans (h : w.Registers depth made w') (h' : w'.Registers depth further w'') :
    w.Registers depth (made ++ further) w'' where
  length := h'.length.trans h.length
  events := by
    obtain ⟨es, he, hm⟩ := h.events
    obtain ⟨es', he', hm'⟩ := h'.events
    exact ⟨es ++ es', by rw [he', he, List.append_assoc], by rw [List.filterMap_append, hm, hm']⟩

theorem Registers.before (h : w.Registers depth made w') (h' : w'.Registers depth [] w'') :
    w.Registers depth made w'' := by
  have hall := h.trans h'
  rwa [List.append_nil] at hall

/-- `w'` comes after `w`, and in between the engine at the depth of `w` registered `made`, and
nobody else wrote in the journal. -/
def Books (w : World) (made : List Registration) (w' : World) : Prop :=
  ∃ own, w.Adds own w' ∧ own.filterMap Event.registration? = made

theorem Adds.books (h : w.Adds own w') (hnone : ∀ e ∈ own, e.registration? = none) :
    w.Books [] w' :=
  ⟨own, h, List.filterMap_eq_nil_iff.2 hnone⟩

theorem Books.trans (h : w.Books made w') (h' : w'.Books further w'') :
    w.Books (made ++ further) w'' := by
  obtain ⟨own, hw, rfl⟩ := h
  obtain ⟨own', hw', rfl⟩ := h'
  exact ⟨own ++ own', hw.trans hw', List.filterMap_append⟩

/-- What an engine writes in the journal is at its own depth. -/
theorem Books.registers (h : w.Books made w') (depth : Nat) :
    w.Registers depth (if w.scopes.length = depth then made else []) w' := by
  obtain ⟨own, hw, rfl⟩ := h
  refine ⟨hw.depth, _, hw.events, ?_⟩
  rw [List.filterMap_map]
  split <;> rename_i hd
  · exact List.filterMap_congr fun e _ => if_pos hd
  · exact List.filterMap_eq_nil_iff.2 fun e _ => if_neg hd

theorem Passage.registers (h : w.Passage own w') :
    w.Registers w.scopes.length (own.filterMap Event.registration?) w' := by
  obtain ⟨es, he, -, rfl⟩ := h.events
  refine ⟨h.depth, es, he, ?_⟩
  rw [List.filterMap_map, List.filterMap_filter]
  exact List.filterMap_congr fun p _ => by simp [Event.registrationAt]

/-- Nothing is registered at a smaller depth. -/
theorem Leads.registers (h : w.Leads P w') (hd : depth < w.scopes.length) :
    w.Registers depth [] w' := by
  obtain ⟨own, hp, -⟩ := h
  obtain ⟨es, he, hdeep, -⟩ := hp.events
  refine ⟨hp.depth, es, he, List.filterMap_eq_nil_iff.2 fun p hm => if_neg ?_⟩
  have := hdeep p hm
  omega

/-! ## Ledgers -/

/-- The ledgers of the open scopes, innermost first. -/
def ledgers (w : World) : List Ledger := w.scopes.map (·.ledger)

/-- The innermost scope is that of the run `id`, and keys were asked for under the task keys
`asked`. -/
def Shows (w : World) (id : Uuid) (asked : List String) : Prop :=
  ∃ l ∈ w.ledgers.head?, l.Shows id asked

/-- `w'` comes after `w`, and in between the engine at the depth of `w` registered nothing, and all
ledgers stayed as they were. -/
structure Spares (w w' : World) : Prop where
  books : w.Books [] w'
  ledgers : w'.ledgers = w.ledgers

theorem Spares.refl (w : World) : w.Spares w := ⟨⟨[], .refl w, rfl⟩, rfl⟩

theorem Spares.trans (h : w.Spares w') (h' : w'.Spares w'') : w.Spares w'' :=
  ⟨h.books.trans h'.books, h'.ledgers.trans h.ledgers⟩

theorem Spares.registers (h : w.Spares w') (depth : Nat) : w.Registers depth [] w' := by
  have hall := h.books.registers depth
  rwa [ite_self] at hall

theorem Quiet.spares (h : w.Quiet w') (hl : w'.ledgers = w.ledgers) : w.Spares w' := by
  obtain ⟨own, hw, hquiet⟩ := h
  refine ⟨hw.toAdds.books fun e he => ?_, hl⟩
  have hcall := hquiet e he
  cases e <;> first | rfl | cases hcall

theorem spares_close (w : World) : w.Spares w.close := ⟨⟨_, w.writes_close.toAdds, rfl⟩, rfl⟩

theorem spares_sleep (w : World) (duration : Nat) : w.Spares (w.sleep duration) :=
  ⟨⟨_, (w.writes_sleep duration).toAdds, rfl⟩, rfl⟩

theorem spares_connect (w : World) : w.Spares w.connect.2 :=
  ⟨⟨_, w.writes_connect.toAdds, rfl⟩, rfl⟩

theorem ledgers_report (w : World) (s : State) : (w.report s).ledgers = w.ledgers :=
  map_scopes_report w s fun _ => rfl

theorem Spares.shows (h : w.Spares w') : w'.Shows id asked ↔ w.Shows id asked := by
  rw [Shows, Shows, h.ledgers]

/-- `w'` comes after `w`, and in between the engine of a run of the flow registered `made`, each
under the next key of the innermost scope. -/
structure Enlists (w : World) (flow : Flow) (made : List Registration) (w' : World) : Prop where
  books : w.Books made w'
  shows : ∀ {id asked}, w.Shows id asked → InTurn id asked (made.map (KeyCall.registered flow)) ∧
    w'.Shows id (asked ++ (made.map (KeyCall.registered flow)).map KeyCall.taskKey)

theorem Spares.enlists_nil (h : w.Spares w') : w.Enlists flow [] w' where
  books := h.books
  shows hw := ⟨trivial, by simpa using h.shows.2 hw⟩

theorem Spares.enlists (h : w.Spares w') (h' : w'.Enlists flow made w'') :
    w.Enlists flow made w'' where
  books := h.books.trans h'.books
  shows hw := h'.shows (h.shows.2 hw)

theorem Enlists.before (h : w.Enlists flow made w') (h' : w'.Spares w'') :
    w.Enlists flow made w'' where
  books := List.append_nil made ▸ h.books.trans h'.books
  shows hw := (h.shows hw).imp_right h'.shows.2

theorem Enlists.registers (h : w.Enlists flow made w') (depth : Nat) :
    w.Registers depth (if w.scopes.length = depth then made else []) w' :=
  h.books.registers depth

end World

namespace Engine

open World

variable {e e' : Engine} {w w' : World} {limit : Nat}

/-! ## Starting -/

theorem spares_setState {s : State} {r : Except EngineError State}
    (h : e.setState limit w s = some (r, e', w')) : w.Spares w' := by
  refine ⟨?_, congrArg (List.map _) (undisturbed_setState h).scopes⟩
  cases proposes_setState h with
  | shortCircuited | notStarted | unrecorded => exact (Spares.refl w).books
  | answered _ _ _ _ hw =>
    refine hw.toAdds.books fun e he => ?_
    obtain ⟨answer, -, rfl⟩ := List.mem_map.1 he
    rfl

theorem spares_checkParameters {r : Except EngineError Unit}
    (h : e.checkParameters limit w = some (r, e', w')) : w.Spares w' := by
  simp only [checkParameters] at h
  split at h
  · cases h
    exact .refl w
  · split at h
    · cases h
      exact .refl w
    · split at h <;> cases h <;> rename_i hexception
      all_goals exact spares_setState hexception

/-- Registering a run takes a key of the enclosing scope, whatever the client says. -/
theorem enlists_link (e : Engine) (w : World) : ∃ made, w.Enlists e.flow made (e.link w).2 := by
  simp only [link]
  split
  · exact ⟨[], (World.Spares.refl w).enlists_nil⟩
  · rename_i scope rest hs
    have hkey : w.Writes [] (w.withScope (scope.nextDynamicKey e.flow.taskKey).2) :=
      w.writes_withScope (by simp [hs])
    split <;> rename_i heq
    all_goals
      have hw := hkey.trans (heq ▸ World.writes_createTaskRun ..)
      have hledgers := congrArg (fun p => p.2.ledgers.head?) heq
      refine ⟨_, ⟨_, hw.toAdds, rfl⟩, fun hfound => ?_⟩
      obtain ⟨l, hl, hshows⟩ := hfound
      rw [World.ledgers, hs, List.map_cons, List.head?_cons, Option.mem_some_iff] at hl
      subst hl
      obtain ⟨hnumber, hnext⟩ := hshows.next e.flow.taskKey
      exact ⟨⟨hnumber, ⟨hshows.run, rfl, rfl⟩, trivial⟩, _, hledgers.symm, hnext⟩

theorem enlists_create (e : Engine) (w : World) :
    ∃ made, w.Enlists e.flow made (e.create w).2 := by
  obtain ⟨made, hlink⟩ := enlists_link e w
  simp only [create]
  split <;> rename_i heq <;> rw [heq] at hlink
  · exact ⟨made, hlink⟩
  · split <;> rename_i hcreate
    all_goals
      have hw := hcreate ▸ World.writes_createFlowRun ..
      have hl := congrArg (fun p => World.ledgers p.2) hcreate
      exact ⟨made, hlink.before ⟨⟨_, hw.toAdds, rfl⟩, hl.symm⟩⟩

theorem enlists_ensureRecord (e : Engine) (w : World) :
    ∃ made, w.Enlists e.flow made (e.ensureRecord w).2.2 := by
  have hcreate := enlists_create e w
  simp only [ensureRecord]
  split
  · exact ⟨[], (World.Spares.refl w).enlists_nil⟩
  · split <;> rename_i heq <;> rw [heq] at hcreate <;> exact hcreate

/-- The world once an engine is connected and has a record, or was refused either. -/
def recorded (e : Engine) (w : World) : World :=
  match w.connect with
  | (.error _, w) => w
  | (.ok (), w) => ({ e with connected := true }.ensureRecord w).2.2

theorem enlists_recorded (e : Engine) (w : World) :
    ∃ made, w.Enlists e.flow made (e.recorded w) := by
  have hconnect := w.spares_connect
  simp only [recorded]
  split <;> rename_i heq <;> rw [heq] at hconnect
  · exact ⟨[], hconnect.enlists_nil⟩
  · rename_i w₁
    obtain ⟨made, h⟩ := enlists_ensureRecord { e with connected := true } w₁
    exact ⟨made, hconnect.enlists h⟩

/-- What is left of setting up, once there is a record, spares all ledgers. -/
theorem spares_setup {r : Except EngineError Unit} (h : e.setup limit w = some (r, e', w')) :
    (e.ensureRecord w).2.2.Spares w' := by
  simp only [setup] at h
  split at h <;> rename_i hensure <;> rw [hensure]
  · cases h
    exact .refl _
  · split at h <;> cases h <;> rename_i hcheck <;> exact spares_checkParameters hcheck

theorem spares_start {r : Except EngineError Unit} (hc : e.connected = false)
    (h : e.start limit w = some (r, e', w')) : (e.recorded w).Spares w' := by
  cases hconnect : w.connect with
  | mk answer w₁ =>
    cases answer with
    | error error =>
      simp only [start, hc, hconnect, Bool.false_eq_true, if_false] at h
      cases h
      simp only [recorded, hconnect]
      exact .refl _
    | ok =>
      simp only [start, hc, hconnect, Bool.false_eq_true, if_false] at h
      simp only [recorded, hconnect]
      split at h <;> cases h <;> rename_i heq
      · exact spares_setup heq
      · exact (spares_setup heq).trans (World.spares_close _)

theorem spares_finish (e : Engine) (w : World) : w.Spares (e.finish w).2 := by
  cases hc : e.connected with
  | false =>
    rw [finish_of_not_connected hc]
    exact .refl w
  | true =>
    have hl : (e.finish w).2.ledgers = w.ledgers := by
      simp only [finish, hc, Bool.not_true, Bool.false_eq_true, if_false]
      split <;> split <;> first | exact World.ledgers_report .. | rfl
    obtain ⟨w₁, hquiet, hfinish⟩ := exists_finish hc w
    rw [hfinish] at hl ⊢
    exact (hquiet.spares hl).trans w₁.spares_close

end Engine

end RunEngine
