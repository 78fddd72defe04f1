import RunEngine.Proofs.Children
import RunEngine.Proofs.Observation

/-!
# Background tasks

What a body leaves in the background goes into the group of its run's scope (`Program.group_run`).
The scope goes from one attempt to the next, and so does the group (`Engine.group_driven`). A nested
run has a group of its own and leaves those around it alone (`World.groups_runFlow`).

When the driver has come back, in whatever way, the engine closes the group: it waits for the tasks
that the group holds until it holds none (`World.Closes`), and only then reports the state of the
run and releases the client. A task may put more tasks into the group, so this takes several rounds,
and how many depends on when the tasks wake up. It does not matter: the tasks that are waited for
are always those of the group and all that come of them (`BackgroundTask.family`), each once.

**`World.runFlow_closes`** puts this together with the tasks that take effect. That the tasks make
no difference to the reply is shown where it is said what a run gets to see.
-/

namespace RunEngine

/-! ## What comes of a task -/

mutual

/-- The task of a plan that is begun at the time `now`, and all that come of it. -/
def TaskPlan.family : Nat → TaskPlan → List BackgroundTask
  | now, ⟨name, delay, panics, spawns⟩ =>
    { name, due := now + delay, panics } :: TaskPlan.families (now + delay) spawns

def TaskPlan.families : Nat → List TaskPlan → List BackgroundTask
  | _, [] => []
  | now, p :: rest => p.family now ++ TaskPlan.families now rest

end

namespace BackgroundTask

variable {t : BackgroundTask} {tasks : List BackgroundTask}

/-- The task and all that come of it: what it spawns, what that spawns, and so on. -/
def family (t : BackgroundTask) : List BackgroundTask :=
  t.awake :: TaskPlan.families t.due t.spawns

theorem family_begun (p : TaskPlan) (now : Nat) : (p.begun now).family = p.family now := by
  cases p
  rfl

theorem family_eq (t : BackgroundTask) : t.family = t.awake :: t.spawned.flatMap family := by
  rw [family, spawned]
  congr 1
  induction t.spawns with
  | nil => rfl
  | cons p rest ih => rw [TaskPlan.families, ih, List.map_cons, List.flatMap_cons, family_begun]

theorem family_awake (t : BackgroundTask) : t.awake.family = [t.awake] := rfl

/-- The tasks themselves, and what comes of those that they spawn. -/
theorem perm_flatMap_family (tasks : List BackgroundTask) :
    (tasks.flatMap family).Perm (tasks.map awake ++ (tasks.flatMap spawned).flatMap family) := by
  induction tasks with
  | nil => exact .refl _
  | cons t rest ih =>
    rw [List.flatMap_cons, List.flatMap_cons, List.flatMap_append, List.map_cons, family_eq,
      List.cons_append, List.cons_append]
    exact ((ih.append_left _).trans (List.perm_append_comm_assoc ..)).cons _

/-! ### Rounds -/

theorem generations_append (earlier later : List BackgroundTask) :
    generations (earlier ++ later) = max (generations earlier) (generations later) := by
  induction earlier with
  | nil => simp [generations]
  | cons t rest ih => rw [List.cons_append, generations, generations, ih, Nat.max_assoc]

theorem generations_spawned (t : BackgroundTask) :
    generations t.spawned = TaskPlan.heights t.spawns := by
  rw [spawned]
  induction t.spawns with
  | nil => rfl
  | cons p rest ih =>
    cases p
    rw [List.map_cons, generations, ih]
    rfl

/-- After one round there is one generation less. -/
theorem generations_eq (h : tasks ≠ []) :
    generations tasks = generations (tasks.flatMap spawned) + 1 := by
  induction tasks with
  | nil => exact absurd rfl h
  | cons t rest ih =>
    rw [generations, List.flatMap_cons, generations_append, generations_spawned]
    by_cases hrest : rest = []
    · rw [hrest]
      simp [generations]
    · rw [ih hrest, Nat.add_max_add_right]

/-- What the tasks spawn is waited for after them. -/
theorem inRounds_eq (h : tasks ≠ []) :
    inRounds tasks = tasks.map awake ++ inRounds (tasks.flatMap spawned) := by
  rw [inRounds, generations_eq h]
  rfl

end BackgroundTask

/-- The names of the tasks that take effect. -/
def effects (tasks : List BackgroundTask) : List String :=
  (tasks.filter fun task => !task.panics).map (·.name)

/-! ## Groups -/

namespace TaskGroup

variable {g g' : TaskGroup} {task : BackgroundTask}

/-- The group with more tasks. -/
def spawnAll (g : TaskGroup) (tasks : List BackgroundTask) : TaskGroup :=
  { g with tasks := g.tasks ++ tasks }

@[simp] theorem spawnAll_nil (g : TaskGroup) : g.spawnAll [] = g := by simp [spawnAll]

theorem spawnAll_append (g : TaskGroup) (tasks more : List BackgroundTask) :
    g.spawnAll (tasks ++ more) = (g.spawnAll tasks).spawnAll more := by simp [spawnAll]

theorem le_foldl_max (now : Nat) (tasks : List BackgroundTask) :
    now ≤ tasks.foldl (fun latest task => max latest task.due) now := by
  induction tasks generalizing now with
  | nil => exact Nat.le_refl now
  | cons task tasks ih => exact Nat.le_trans (Nat.le_max_left ..) (ih _)

/-- No task wakes up after the last. -/
theorem due_le_lastDue (now : Nat) (h : task ∈ BackgroundTask.inRounds g.tasks) :
    task.due ≤ g.lastDue now := by
  obtain ⟨earlier, later, hsplit⟩ := List.append_of_mem h
  rw [lastDue, hsplit, List.foldl_append, List.foldl_cons]
  exact Nat.le_trans (Nat.le_max_right ..) (le_foldl_max ..)

end TaskGroup

namespace World

open BackgroundTask

variable {w w' w'' : World} {g g' g'' : TaskGroup} {tasks tasks' : List BackgroundTask}

/-- Wait until a background task is over, be it that it panics. -/
def awaitTask (isPrivate : Bool) (w : World) (task : BackgroundTask) : World :=
  { w with
    clock := if isPrivate then w.clock else max w.clock task.due
    journal := { w.journal with
      background := w.journal.background ++ if task.panics then [] else [task.name] } }

/-- Between the two worlds a group was closed: as long as it held tasks they were taken out of it
and waited for, one after the other. These are the tasks that were waited for, and the group that is
left. A task in the group may wake up at any time. One that is waited for has woken up in the end,
so after a round the group holds what the tasks of the round have spawned, in some order. -/
inductive Closes : World → TaskGroup → List BackgroundTask → World → TaskGroup → Prop
  | empty {w : World} {g : TaskGroup} : g.tasks = [] → Closes w g [] w g
  | wake {w w' : World} {g g' : TaskGroup} {tasks earlier later : List BackgroundTask}
      {task : BackgroundTask} : g.tasks = earlier ++ task :: later →
      Closes w { g with tasks := earlier ++ task.awake :: later ++ task.spawned } tasks w' g' →
      Closes w g tasks w' g'
  | round {w w' : World} {g g' : TaskGroup} {tasks spawned : List BackgroundTask} : g.tasks ≠ [] →
      spawned.Perm (g.tasks.flatMap BackgroundTask.spawned) →
      Closes ((g.tasks.map awake).foldl (awaitTask g.isPrivate) w) { g with tasks := spawned }
        tasks w' g' →
      Closes w g (g.tasks.map awake ++ tasks) w' g'

theorem awaitTask_foldl (w : World) (isPrivate : Bool) (tasks : List BackgroundTask) :
    tasks.foldl (awaitTask isPrivate) w =
      { w with
        clock := if isPrivate then w.clock
          else tasks.foldl (fun latest task => max latest task.due) w.clock
        journal := { w.journal with background := w.journal.background ++ effects tasks } } := by
  induction tasks generalizing w with
  | nil => simp [effects]
  | cons task tasks ih =>
    rw [List.foldl_cons, ih]
    cases hp : task.panics <;> cases isPrivate <;> simp [awaitTask, effects, hp]

/-- What closing a group leaves is told by the tasks that were waited for. -/
theorem Closes.eq (h : w.Closes g tasks w' g') :
    w' = tasks.foldl (awaitTask g.isPrivate) w ∧ g' = { g with tasks := [] } := by
  induction h with
  | empty hempty => exact ⟨rfl, by rw [← hempty]⟩
  | wake _ _ ih => exact ih
  | round _ _ _ ih =>
    rw [List.foldl_append]
    exact ih

/-- **All tasks are waited for**, and all that come of them, each once and whenever it wakes up. -/
theorem Closes.perm (h : w.Closes g tasks w' g') : tasks.Perm (g.tasks.flatMap family) := by
  induction h with
  | empty hempty => rw [hempty]; exact .nil
  | @wake _ _ g _ _ earlier later task hsplit _ ih =>
    refine ih.trans ?_
    -- The task that woke up takes what it has spawned along.
    rw [hsplit, List.append_assoc, List.cons_append, List.flatMap_append, List.flatMap_append,
      List.flatMap_cons, List.flatMap_cons, List.flatMap_append, family_awake, family_eq task,
      List.cons_append, List.cons_append, List.nil_append]
    exact (List.perm_append_comm.cons _).append_left _
  | @round _ _ g _ _ spawned _ hspawned _ ih =>
    refine .trans ?_ (perm_flatMap_family g.tasks).symm
    exact (ih.trans (hspawned.flatMap_right family)).append_left _

/-- There is a way to close any group, and this is what is waited for then. -/
theorem exists_closes_inRounds (w : World) (g : TaskGroup) :
    ∃ closed, w.Closes g (inRounds g.tasks) closed { g with tasks := [] } := by
  generalize hn : generations g.tasks = n
  induction n generalizing w g with
  | zero =>
    have hempty : g.tasks = [] := by
      by_contra hne
      rw [generations_eq hne] at hn
      cases hn
    have hgroup : { g with tasks := [] } = g := by rw [← hempty]
    rw [hempty, hgroup]
    exact ⟨w, .empty hempty⟩
  | succ n ih =>
    have hne : g.tasks ≠ [] := by
      intro hempty
      rw [hempty] at hn
      cases hn
    rw [generations_eq hne, Nat.add_right_cancel_iff] at hn
    obtain ⟨closed, hcloses⟩ := ih ((g.tasks.map awake).foldl (awaitTask g.isPrivate) w)
      { g with tasks := g.tasks.flatMap spawned } hn
    rw [inRounds_eq hne]
    exact ⟨closed, .round hne (.refl _) hcloses⟩

/-- **To settle a group is to close it**: all its tasks are waited for, and all that come of them,
and it is left without any. -/
theorem closes_settle (w : World) (g : TaskGroup) : ∃ closed,
    w.Closes g (inRounds g.tasks) closed { g with tasks := [] } ∧
      w.settle g = closed.record (.settle (effects (inRounds g.tasks))) := by
  obtain ⟨closed, hcloses⟩ := w.exists_closes_inRounds g
  refine ⟨closed, hcloses, ?_⟩
  rw [hcloses.eq.1, awaitTask_foldl]
  rfl

/-- It makes no difference in which way a group is closed, but for the order in which its tasks take
effect. -/
theorem Closes.unique (h : w.Closes g tasks w' g') (h' : w.Closes g tasks' w'' g'') :
    tasks.Perm tasks' ∧ g'' = g' ∧ w''.clock = w'.clock := by
  have hperm := h.perm.trans h'.perm.symm
  obtain ⟨hw, hg⟩ := h.eq
  obtain ⟨hw', hg'⟩ := h'.eq
  refine ⟨hperm, hg'.trans hg.symm, ?_⟩
  rw [hw, hw', awaitTask_foldl, awaitTask_foldl]
  have hlast : tasks.foldl (fun latest task => max latest task.due) w.clock =
      tasks'.foldl (fun latest task => max latest task.due) w.clock :=
    hperm.foldl_eq' (fun _ _ _ _ _ => Nat.max_right_comm ..) _
  exact congrArg (fun last => if g.isPrivate then w.clock else last) hlast.symm

end World

/-! ## Bodies that are invoked -/

/-- The background tasks of the innermost run. -/
def World.group? (w : World) : Option TaskGroup := w.scopes.head?.map (·.group)

namespace Engine

open World

variable {e e' : Engine} {w w' : World} {limit : Nat} {body : Invoke} {vs : List Visit}
  {f : Visit → List BackgroundTask} {f' : Visit → List String} {g : TaskGroup}

/-- `f` tells the tasks that the body leaves in the background of its run when it is invoked, and
`f'` the tasks of nested runs that take effect in the meantime. -/
def TellsTasks (body : Invoke) (f : Visit → List BackgroundTask) (f' : Visit → List String)
    (vs : List Visit) : Prop :=
  ∀ v ∈ vs, ∀ g outcome inside, v.inside.group? = some g → v.run body = some (outcome, inside) →
    inside.group? = some (g.spawnAll (f v)) ∧
      inside.journal.background = v.inside.journal.background ++ f' v

/-- **Background tasks go from one attempt to the next**, and none of them takes effect while the
run is driven. -/
theorem group_driven (hf : TellsTasks body f f' vs) (hg : e.scope.map (·.group) = some g)
    (h : Driven body e w vs e' w') :
    e'.scope.map (·.group) = some (g.spawnAll (vs.flatMap f)) ∧
      w'.journal.background = w.journal.background ++ vs.flatMap f' := by
  induction h with
  | nil => simpa using hg
  | propose _ hset ih =>
    obtain ⟨hgroup, hbackground⟩ := ih hf
    exact ⟨(map_scope_setState hset fun _ _ => rfl).trans hgroup,
      (undisturbed_setState hset).background.trans hbackground⟩
  | sleep _ _ ih => exact ih hf
  | @invoke _ e₁ _ w₁ _ scope _ _ hs hinvoke ih =>
    obtain ⟨hearlier, hlast⟩ := List.forall_mem_append.1 hf
    obtain ⟨hgroup, hbackground⟩ := ih hearlier
    rw [hs] at hgroup
    obtain ⟨inside, hrun, rfl, rfl⟩ := exists_run_of_invoke hs hinvoke
    obtain ⟨hinside, hmore⟩ := hlast _ (List.mem_singleton_self _) _ _ _ hgroup hrun
    rw [List.flatMap_append, List.flatMap_singleton, TaskGroup.spawnAll_append,
      List.flatMap_append, List.flatMap_singleton, ← List.append_assoc, ← hbackground]
    exact ⟨hinside, hmore⟩

end Engine

/-! ## Before a run is finished -/

/-- An event of an engine that is not being finished. -/
def Event.IsEarlier (e : Event) : Prop := e.isOfFinish = false

namespace Engine

open World

variable {e e' : Engine} {w w' : World} {limit : Nat} {body : Invoke} {vs : List Visit} {s : State}

theorem Recording.isEarlier {nested : Bool} {given : Option FlowRun} {own : List Event}
    {outcome : Except EngineError FlowRun} (h : Recording nested given own outcome) :
    ∀ event ∈ own, event.IsEarlier := by
  cases h <;> simp [Event.IsEarlier, Event.isOfFinish]

theorem leads_start_isEarlier (hc : e.connected = false)
    (h : e.start limit w = some (.ok (), e', w')) : w.Leads Event.IsEarlier w' := by
  cases starts_start h with
  | already hconnected => cases hconnected.symm.trans hc
  | started _ hconnect hrecording hw hchecks =>
    obtain ⟨proposals, hw', hproposes⟩ := (hchecks.writes rfl).1
    refine ⟨_, ((hconnect.trans hw).trans hw').passage (leads_start h), ?_⟩
    refine List.forall_mem_append.2 ⟨List.forall_mem_append.2 ⟨?_, hrecording.isEarlier⟩, ?_⟩
    · exact List.forall_mem_singleton.2 rfl
    · intro event hevent
      obtain ⟨s, answer, rfl⟩ := hproposes event hevent
      rfl

theorem leads_setState_isEarlier {r : Except EngineError State}
    (h : e.setState limit w s = some (r, e', w')) : w.Leads Event.IsEarlier w' := by
  cases proposes_setState h with
  | shortCircuited | notStarted | unrecorded => exact .refl ..
  | answered _ _ _ _ hw =>
    refine ⟨_, hw.passage (leads_setState h), fun event hevent => ?_⟩
    obtain ⟨answer, -, rfl⟩ := List.mem_map.1 hevent
    rfl

theorem leads_driven_isEarlier (hb : body.KeepsFrame) (h : Driven body e w vs e' w') :
    w.Leads Event.IsEarlier w' := by
  induction h with
  | nil => exact .refl ..
  | propose _ hset ih => exact ih.trans (leads_setState_isEarlier hset)
  | sleep duration _ ih => exact ih.trans (World.passage_sleep ..).leads_nil
  | invoke _ _ hinvoke ih =>
    exact ih.trans ((passage_invoke hb hinvoke).leads (by simp [Event.IsEarlier, Event.isOfFinish]))

end Engine

/-! ## Requests -/

namespace World

open Engine BackgroundTask

variable {w entered started driven left : World} {limit : Nat} {flow : Flow} {request : RunRequest}
  {e e' : Engine} {body : Invoke} {f : Visit → List BackgroundTask} {f' : Visit → List String}
  {outcome : Except EngineError RunOutput} {reply : RunReply}

/-- A nested run leaves the background tasks of the runs around it alone. -/
theorem groups_runFlow (hb : body.KeepsFrame)
    (h : w.runFlow limit body flow request = some (reply, left)) :
    left.scopes.map (·.group) = w.scopes.map (·.group) := by
  rcases runFlow_cases h with
    ⟨-, -, henlisted⟩ | ⟨entered, e, started, e', driven, hlaunch, hd, rfl⟩
  · exact henlisted.map_scopes fun _ _ => rfl
  · obtain ⟨scope, s, -, -, hscopes, hfinish⟩ := hlaunch.exists_finish hb hd
    have hreport := map_scopes_report (f := (·.group)) (driven.settle scope.group) s fun _ => rfl
    have hsettle : (driven.settle scope.group).scopes = started.scopes := hscopes
    rw [(undisturbed_alight ..).scopes, hfinish, (undisturbed_close _).scopes, hreport, hsettle]
    exact hlaunch.enlisted.map_scopes fun _ _ => rfl

/-- Finishing a run takes the events of finishing, in this order. -/
theorem passage_finish (w : World) (group : TaskGroup) (s : State) :
    w.Passage (.settle group.effective :: (if w.nested then [.report s] else []) ++ [.close])
      ((w.settle group).report s).close := by
  have hnested : (w.settle group).scopes = w.scopes := rfl
  suffices hreport : (w.settle group).Passage (if w.nested then [.report s] else [])
      ((w.settle group).report s) from
    ((passage_settle w group).trans hreport).trans (passage_close _)
  rw [World.report, hnested, World.nested]
  cases hs : w.scopes with
  | nil => exact .refl _
  | cons scope rest =>
    have hchild : (w.settle group).Passage []
        { w.settle group with scopes := scope.recordChild s :: rest } :=
      passage_silent rfl (.refl ..) (by simp [hnested, hs]) (by simp [hnested, hs]) rfl
    exact hchild.trans (passage_record ..)

theorem leads_board_isEarlier {entry : Entry} {outcome : Except ClientError Unit}
    (h : w.board entry = (outcome, entered)) : w.Leads Event.IsEarlier entered := by
  have henter (w' : World) : w'.Passage [] { w' with onRuntime := true } :=
    passage_silent rfl (.refl ..) rfl rfl rfl
  cases entry with
  | await =>
    cases h
    exact .refl ..
  | block =>
    simp only [board] at h
    split at h <;> cases h
    · exact ((passage_fork w).trans (henter _)).leads_one rfl
    · exact (henter w).leads_nil

/-- The group of a run that was started holds no tasks, and is private to it if its caller blocks a
thread. -/
theorem Launches.exists_group (h : w.Launches limit flow request entered e started) :
    ∃ g, e.scope.map (·.group) = some g ∧ g.tasks = [] ∧
      (request.entry = .await → g.isPrivate = false) := by
  obtain ⟨scope, hs⟩ := h.exists_scope
  have hgroup := (isNew_start rfl h.start scope hs).group
  refine ⟨scope.group, by rw [hs]; rfl, ?_, fun hentry => ?_⟩
  · rw [hgroup, engineFor]
    cases request.entry <;> rfl
  · rw [hgroup, engineFor, hentry]
    rfl

/-- **How a run that was started is finished.** Its driver comes back, all tasks that its body has
left in the background are waited for, and then its state is reported and its client released. -/
theorem Launches.exists_closes {f' : Visit → List String}
    (hlaunch : w.Launches limit flow request entered e started) (hb : body.KeepsFrame)
    (hf : TellsTasks body f f' (w.visits limit body flow request))
    (hd : e.drive limit body request.options started = some (outcome, e', driven)) :
    ∃ group closed s, e'.scope.map (·.group) = some group ∧ e'.state? = some s ∧
      group.tasks = (w.visits limit body flow request).flatMap f ∧
      (request.entry = .await → group.isPrivate = false) ∧
      driven.journal.background =
        w.journal.background ++ (w.visits limit body flow request).flatMap f' ∧
      driven.Closes group (inRounds group.tasks) closed { group with tasks := [] } ∧
      driven.settle group = closed.record (.settle (effects (inRounds group.tasks))) ∧
      (e'.finish driven).2 = ((driven.settle group).report s).close := by
  obtain ⟨g, hg, htasks, hprivate⟩ := hlaunch.exists_group
  obtain ⟨scope, s, hscope, hs, -, hfinish⟩ := hlaunch.exists_finish hb hd
  rw [hlaunch.visits] at hf ⊢
  obtain ⟨hgroup, hbackground⟩ := group_driven hf hg (driven_drive hd)
  rw [hscope, Option.map_some, Option.some_inj] at hgroup
  obtain ⟨closed, hcloses, hsettle⟩ := driven.closes_settle scope.group
  refine ⟨scope.group, closed, s, by rw [hscope]; rfl, hs, ?_, fun hentry => ?_, ?_, hcloses,
    hsettle, hfinish⟩
  · rw [hgroup, TaskGroup.spawnAll, htasks, List.nil_append]
  · rw [hgroup]
    exact hprivate hentry
  · rw [hbackground, hlaunch.enlisted.background]

theorem clock_report (w : World) (s : State) : (w.report s).clock = w.clock := by
  unfold report
  split <;> rfl

theorem clock_alight (hentry : request.entry = .await) (left : World) :
    (w.alight request left).clock = left.clock := by
  simp only [alight, hentry]
  split <;> rfl

/-- On the runtime of the caller, the time passes when the tasks wake up. -/
theorem due_le_settle {group : TaskGroup} {task : BackgroundTask} (w : World)
    (hprivate : group.isPrivate = false) (htask : task ∈ inRounds group.tasks) :
    task.due ≤ (w.settle group).clock := by
  have hclock : (w.settle group).clock = group.lastDue w.clock := by
    simp [settle, hprivate, World.record]
  rw [hclock]
  exact TaskGroup.due_le_lastDue w.clock htask

theorem background_report (w : World) (s : State) :
    (w.report s).journal.background = w.journal.background := by
  unfold report
  split <;> rfl

theorem Closes.background {w w' : World} {g g' : TaskGroup} {tasks : List BackgroundTask}
    (h : w.Closes g tasks w' g') :
    w'.journal.background = w.journal.background ++ effects tasks := by
  rw [h.eq.1, awaitTask_foldl]

/-- **What takes effect while a request is carried out**: tasks of the runs nested in it, and then
those of the run itself. -/
theorem background_runFlow {f' : Visit → List String} (hb : body.KeepsFrame)
    (hf : TellsTasks body f f' (w.visits limit body flow request))
    (h : w.runFlow limit body flow request = some (reply, left)) :
    left.journal.background = w.journal.background ++
      ((w.visits limit body flow request).flatMap f' ++
        effects (inRounds ((w.visits limit body flow request).flatMap f))) := by
  rcases runFlow_cases h with
    ⟨hvisits, -, henlisted⟩ | ⟨entered, e, started, e', driven, hlaunch, hd, rfl⟩
  · rw [hvisits, henlisted.background]
    exact (List.append_nil _).symm
  · obtain ⟨group, closed, s, -, -, htasks, -, hbackground, hcloses, hsettle, hfinish⟩ :=
      hlaunch.exists_closes hb hf hd
    rw [(undisturbed_alight ..).background, hfinish, (undisturbed_close _).background,
      background_report, hsettle, ← htasks, ← List.append_assoc, ← hbackground]
    exact hcloses.background

end World

/-! ## Programs -/

/-- The task that an action leaves in the background. -/
def Action.task? (w : World) : Action → Option BackgroundTask
  | .spawn name delay panics spawns =>
    let plan : TaskPlan := { name, delay, panics, spawns }
    some (plan.begun w.clock)
  | _ => none

/-- **An action leaves its task in the group of the innermost run**, and none takes effect. -/
theorem World.group_perform {w : World} {g : TaskGroup} (hg : w.group? = some g)
    (action : Action) :
    (w.perform action).2.group? = some (g.spawnAll (action.task? w).toList) ∧
      (w.perform action).2.journal.background = w.journal.background := by
  cases hs : w.scopes with
  | nil => simp [group?, hs] at hg
  | cons scope rest =>
    rw [group?, hs, List.head?_cons, Option.map_some, Option.some_inj] at hg
    subst hg
    cases action with
    | print =>
      simp only [perform, inScope, hs]
      split <;> simp [group?, hs, addLog, World.print, Action.task?]
    | _ => simp [perform, inScope, hs, group?, addNote, addLog, withScope, World.sleep,
        Action.task?, TaskGroup.spawn, TaskGroup.spawnAll, Scope.nextDynamicKey]

namespace Program

/-- The tasks that a body leaves in the background of its run when it goes on like this. -/
def spawned (limit : Nat) : Program → World → List BackgroundTask
  | .done _, _ => []
  | .perform action next, w =>
    (action.task? w).toList ++ (next (w.perform action).1).spawned limit (w.perform action).2
  | .runFlow flow body request next, w =>
    let invoke : Invoke := fun n parameters inside => (body n parameters).run limit inside
    match w.runFlow limit invoke flow request with
    | none => []
    | some (reply, left) => (next reply).spawned limit left

/-- The background tasks of nested runs, at any depth, that take effect when a body goes on like
this. -/
def aftermath (limit : Nat) : Program → World → List String
  | .done _, _ => []
  | .perform action next, w => (next (w.perform action).1).aftermath limit (w.perform action).2
  | .runFlow flow body request next, w =>
    let invoke : Invoke := fun n parameters inside => (body n parameters).run limit inside
    let visits := w.visits limit invoke flow request
    match w.runFlow limit invoke flow request with
    | none => []
    | some (reply, left) =>
      (visits.flatMap fun v => (body v.invoked v.parameters).aftermath limit v.inside) ++
        effects (BackgroundTask.inRounds
          (visits.flatMap fun v => (body v.invoked v.parameters).spawned limit v.inside)) ++
        (next reply).aftermath limit left

variable {p : Program} {limit : Nat} {w w' : World} {g : TaskGroup}
  {outcome : Except Failure Json}

/-- **What a body leaves in the background goes into the group of its run**, and only tasks of runs
nested in it take effect. -/
theorem group_run (hg : w.group? = some g) (h : p.run limit w = some (outcome, w')) :
    w'.group? = some (g.spawnAll (p.spawned limit w)) ∧
      w'.journal.background = w.journal.background ++ p.aftermath limit w := by
  induction p generalizing w w' g outcome with
  | done =>
    cases h
    simpa [spawned, aftermath] using hg
  | perform action next ih =>
    obtain ⟨hgroup, hbackground⟩ := World.group_perform hg action
    obtain ⟨hlast, hmore⟩ := ih _ hgroup h
    rw [← TaskGroup.spawnAll_append] at hlast
    exact ⟨hlast, hbackground ▸ hmore⟩
  | runFlow flow body request next ihBody ihNext =>
    simp only [run] at h
    split at h
    · cases h
    · rename_i reply left hrun
      have hb := Body.keepsFrame_invoke limit body
      have hf : Engine.TellsTasks (Body.invoke limit body)
          (fun v => (body v.invoked v.parameters).spawned limit v.inside)
          (fun v => (body v.invoked v.parameters).aftermath limit v.inside)
          (w.visits limit (Body.invoke limit body) flow request) :=
        fun v _ g outcome inside hg hinside => ihBody _ _ hg hinside
      have hleft : left.group? = some g := by
        rw [World.group?, ← List.head?_map, World.groups_runFlow hb hrun, List.head?_map]
        exact hg
      have hbackground := World.background_runFlow hb hf hrun
      obtain ⟨hgroup, hmore⟩ := ihNext reply hleft h
      simp only [spawned, aftermath, hrun]
      refine ⟨hgroup, ?_⟩
      rw [hmore, hbackground]
      simp only [List.append_assoc]
      rfl

end Program

namespace Body

/-- The tasks that a body leaves in the background of its run when it is invoked. -/
def spawned (limit : Nat) (body : Body) (v : Visit) : List BackgroundTask :=
  (body v.invoked v.parameters).spawned limit v.inside

/-- The tasks of nested runs that take effect when a body is invoked. -/
def aftermath (limit : Nat) (body : Body) (v : Visit) : List String :=
  (body v.invoked v.parameters).aftermath limit v.inside

theorem tellsTasks (limit : Nat) (body : Body) (vs : List Visit) :
    Engine.TellsTasks (body.invoke limit) (body.spawned limit) (body.aftermath limit) vs :=
  fun _ _ _ _ _ hg h => Program.group_run hg h

end Body

namespace World

variable {w entered started left : World} {limit : Nat} {body : Body} {flow : Flow}
  {request : RunRequest} {e : Engine} {reply : RunReply}

/-- The tasks that a run leaves in the background in all its attempts. -/
def spawned (limit : Nat) (body : Body) (flow : Flow) (request : RunRequest) (w : World) :
    List BackgroundTask :=
  (w.visits limit (body.invoke limit) flow request).flatMap (body.spawned limit)

/-- The tasks that are waited for when a run is finished: those that it left in the background, and
all that come of them. -/
def workload (limit : Nat) (body : Body) (flow : Flow) (request : RunRequest) (w : World) :
    List BackgroundTask :=
  BackgroundTask.inRounds (w.spawned limit body flow request)

/-- The tasks of nested runs that take effect during the attempts of a run. -/
def aftermath (limit : Nat) (body : Body) (flow : Flow) (request : RunRequest) (w : World) :
    List String :=
  (w.visits limit (body.invoke limit) flow request).flatMap (body.aftermath limit)

/-- A run is not finished before its driver has come back. -/
theorem Launches.leads_isEarlier {invoke : Invoke} {e' : Engine} {driven : World}
    {outcome : Except EngineError RunOutput}
    (hlaunch : w.Launches limit flow request entered e started) (hb : invoke.KeepsFrame)
    (hd : e.drive limit invoke request.options started = some (outcome, e', driven)) :
    ∃ client, w.clientFor request.options = .ok client ∧
      { w with client }.Leads Event.IsEarlier driven := by
  obtain ⟨client, hc, hboard⟩ := hlaunch.boarded
  refine ⟨client, hc, (leads_board_isEarlier hboard).trans ?_⟩
  exact (Engine.leads_start_isEarlier rfl hlaunch.start).trans
    (Engine.leads_driven_isEarlier hb (Engine.driven_drive hd))

/-- **The order in which a run is finished**: its background tasks are waited for, then its state is
reported to the run around it, if there is one, then its client is released. -/
theorem Launches.conduct_eq {invoke : Invoke} {e' : Engine} {driven : World}
    {outcome : Except EngineError RunOutput}
    (hlaunch : w.Launches limit flow request entered e started) (group : TaskGroup) (s : State)
    (hb : invoke.KeepsFrame)
    (hd : e.drive limit invoke request.options started = some (outcome, e', driven)) :
    ∃ earlier, w.conduct (w.alight request ((driven.settle group).report s).close) =
        earlier ++ .settle group.effective :: (if w.nested then [.report s] else []) ++ [.close] ∧
      ∀ event ∈ earlier, event.IsEarlier := by
  obtain ⟨client, hc, earlier, hp, hearlier⟩ := hlaunch.leads_isEarlier hb hd
  have hnested : driven.nested = w.nested := congrArg (fun n => decide (0 < n)) hp.depth
  refine ⟨earlier, ?_, hearlier⟩
  rw [((hp.trans (passage_finish driven group s)).alight hc).conduct, hnested]
  simp

/-- **Background work is finished before a run reports.** When a run was started and its request
comes back, with whatever outcome, then all tasks that its body has left in the background, in all
attempts, were in its group. They and all that came of them were waited for, one after the other,
and the group was left empty; whenever the tasks woke up, it would have been the same ones. Each
that does not panic has taken effect once, after those of nested runs. Only then the state of the
run was reported to the run around it, and then the client was released. A caller that is on the
same runtime finds the time passed when the tasks wake up. Other tasks, say with others that panic,
would have made no difference to the reply. -/
theorem runFlow_closes (hlaunch : w.Launches limit flow request entered e started)
    (h : w.runFlow limit (body.invoke limit) flow request = some (reply, left)) :
    ∃ e' driven group closed s,
      e.drive limit (body.invoke limit) request.options started =
        some (reply.outcome, e', driven) ∧
      e'.scope.map (·.group) = some group ∧ group.tasks = w.spawned limit body flow request ∧
      e'.state? = some s ∧
      driven.Closes group (w.workload limit body flow request) closed { group with tasks := [] } ∧
      (w.workload limit body flow request).Perm
        ((w.spawned limit body flow request).flatMap BackgroundTask.family) ∧
      (∀ tasks closed' group', driven.Closes group tasks closed' group' →
        (w.workload limit body flow request).Perm tasks ∧ group' = { group with tasks := [] } ∧
        closed'.clock = closed.clock) ∧
      left = w.alight request
        ((closed.record (.settle (effects (w.workload limit body flow request)))).report s).close ∧
      (∃ earlier,
        w.conduct left = earlier ++ .settle (effects (w.workload limit body flow request)) ::
          (if w.nested then [.report s] else []) ++ [.close] ∧
        ∀ event ∈ earlier, event.IsEarlier) ∧
      left.journal.background = w.journal.background ++
        (w.aftermath limit body flow request ++ effects (w.workload limit body flow request)) ∧
      (request.entry = .await →
        ∀ task ∈ w.workload limit body flow request, task.due ≤ left.clock) ∧
      ∀ body' : Body, (∀ invoked parameters,
          (body invoked parameters).SameButTasks (body' invoked parameters)) →
        ∃ left', w.runFlow limit (body'.invoke limit) flow request = some (reply, left') := by
  have hb := body.keepsFrame_invoke limit
  have hf := body.tellsTasks limit (w.visits limit (body.invoke limit) flow request)
  have hbackground := background_runFlow hb hf h
  obtain ⟨e', driven, hd, hleft⟩ := hlaunch.exists_drive h
  obtain ⟨group, closed, s, hgroup, hs, htasks, hprivate, -, hcloses, hsettle, hfinish⟩ :=
    hlaunch.exists_closes hb hf hd
  have hspawned : group.tasks = w.spawned limit body flow request := htasks
  have hend : left = w.alight request ((driven.settle group).report s).close := hfinish ▸ hleft
  obtain ⟨earlier, hconduct, hearlier⟩ := hlaunch.conduct_eq group s hb hd
  rw [← hend] at hconduct
  rw [workload, ← hspawned]
  refine ⟨e', driven, group, closed, s, hd, hgroup, rfl, hs, hcloses, hcloses.perm,
    fun _ _ _ hother => hcloses.unique hother, hsettle ▸ hend, ⟨earlier, hconduct, hearlier⟩,
    hspawned ▸ hbackground, fun hentry task htask => ?_, fun body' hbody => ?_⟩
  · have hclock : ((driven.settle group).report s).close.clock = (driven.settle group).clock :=
      clock_report ..
    rw [hend, clock_alight hentry, hclock]
    exact due_le_settle driven (hprivate hentry) htask
  · obtain ⟨left', hrun, -⟩ := exists_runFlow_seen hbody h
    exact ⟨left', hrun⟩

/-- A body that leaves a task in the background and runs a flow that does so too, and fails at
first; the second time it leaves two tasks, of which one may panic. The first task leaves another
one, and so does the one that may panic, twice over. -/
def scattering (panics : Bool) : Body := fun n _ =>
  if n = 0 then
    .perform (.spawn "early" 30 false [{ name := "follow-up", delay := 40 }]) fun _ =>
      .runFlow { name := "inner" }
        (fun _ _ => .perform (.spawn "inner" 5 false) fun _ => .done (.ok .null)) {} fun _ =>
          .done (.error { fault := .noContext })
  else
    .perform (.spawn "broken" 10 panics
      [{ name := "repair", delay := 1, spawns := [{ name := "test", delay := 2 }] }]) fun _ =>
      .perform (.spawn "late" 20 false) fun _ => .done (.ok .null)

/-- A flow with one retry. -/
def retried : Flow := { name := "outer", retries := 1 }

/-- The task of the nested run takes effect first, then those of both attempts but the one that
panics, then what they have spawned, and then what that has. If no task panicked the reply would be
the same. -/
theorem runFlow_closes_scattering : ∃ entered e started reply left,
    ({} : World).Launches 9 retried {} entered e started ∧
    ({} : World).runFlow 9 ((scattering true).invoke 9) retried {} = some (reply, left) ∧
    left.journal.background = ["inner", "early", "late", "follow-up", "repair", "test"] ∧
    (∀ task ∈ ({} : World).workload 9 (scattering true) retried {}, task.due ≤ left.clock) ∧
    ∃ left', ({} : World).runFlow 9 ((scattering false).invoke 9) retried {} =
      some (reply, left') := by
  have hstart : ((engineFor retried {}).start 9 {}).any (·.1.toBool) := by decide +kernel
  obtain ⟨⟨outcome, e, started⟩, hstart, hok⟩ := (Option.any_eq_true _ _).1 hstart
  cases outcome with
  | error => cases hok
  | ok =>
    have hlaunch : ({} : World).Launches 9 retried {} {} e started := ⟨⟨_, rfl, rfl⟩, hstart⟩
    obtain ⟨⟨reply, left⟩, hrun⟩ := Option.isSome_iff_exists.1
      (show (({} : World).runFlow 9 ((scattering true).invoke 9) retried {}).isSome by
        decide +kernel)
    have heffects : ({} : World).aftermath 9 (scattering true) retried {} ++
        effects (({} : World).workload 9 (scattering true) retried {}) =
          ["inner", "early", "late", "follow-up", "repair", "test"] := by decide +kernel
    obtain ⟨-, -, -, -, -, -, -, -, -, -, -, -, -, -, hbackground, hdue, hsame⟩ :=
      runFlow_closes hlaunch hrun
    have hbodies (n : Nat) (parameters : Parameters) :
        (scattering true n parameters).SameButTasks (scattering false n parameters) := by
      unfold scattering
      split
      · exact .refl _
      · exact .spawn fun _ => .refl _
    exact ⟨_, e, started, reply, left, hlaunch, hrun, hbackground.trans heffects, hdue rfl,
      hsame _ hbodies⟩

end World

end RunEngine
