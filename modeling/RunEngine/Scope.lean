import RunEngine.Flow
import RunEngine.Record

/-!
# Run scopes

While the body of a run executes, the run's `Scope` is what the body can reach of it: the flow, the
parameters, the latest state, the background tasks, the keys of nested tasks and the final states of
nested runs. Scopes nest as runs do, and a body works in the innermost one.
-/

namespace RunEngine

/-- How the caller of a run waits for it. -/
inductive ExecutionMode where
  /-- On the caller's runtime. -/
  | cooperative
  /-- On a thread that is blocked until the run is over. -/
  | blocking
  deriving DecidableEq, Inhabited

def ExecutionMode.text : ExecutionMode → String
  | cooperative => "Cooperative"
  | blocking => "Blocking"

/-! ## Background tasks -/

/-- What may be left in the background: a task that sleeps, leaves tasks of its own there and then
takes effect. -/
structure TaskPlan where
  name : String
  /-- How long it sleeps, in milliseconds. -/
  delay : Nat
  /-- Whether it panics instead of taking effect. -/
  panics : Bool := false
  /-- The tasks it leaves in the background when it wakes up. -/
  spawns : List TaskPlan := []

/-- A task in the background. -/
structure BackgroundTask where
  name : String
  /-- When it wakes up, in milliseconds of the clock. -/
  due : Nat
  /-- Whether it panics instead of taking effect. -/
  panics : Bool := false
  /-- The tasks it leaves in the background when it wakes up. -/
  spawns : List TaskPlan := []

namespace TaskPlan

/-- The task, when it is begun at the time `now`. -/
def begun (p : TaskPlan) (now : Nat) : BackgroundTask :=
  { name := p.name, due := now + p.delay, panics := p.panics, spawns := p.spawns }

mutual

/-- How many tasks come one after the other, each spawned by the one before it. -/
def height : TaskPlan → Nat
  | ⟨_, _, _, spawns⟩ => heights spawns + 1

def heights : List TaskPlan → Nat
  | [] => 0
  | p :: rest => max p.height (heights rest)

end

end TaskPlan

namespace BackgroundTask

/-- The tasks that are spawned when the task wakes up. -/
def spawned (t : BackgroundTask) : List BackgroundTask := t.spawns.map (·.begun t.due)

/-- The task once it has woken up and spawned its own. -/
def awake (t : BackgroundTask) : BackgroundTask := { t with spawns := [] }

/-- How many tasks come one after the other, beginning with one of these. -/
def generations : List BackgroundTask → Nat
  | [] => 0
  | t :: rest => max (TaskPlan.heights t.spawns + 1) (generations rest)

/-- The tasks that are waited for in so many rounds. A task that was waited for has woken up, so the
next round is for what it has spawned. -/
def rounds : (limit : Nat) → List BackgroundTask → List BackgroundTask
  | 0, _ => []
  | limit + 1, tasks => tasks.map awake ++ rounds limit (tasks.flatMap spawned)

/-- The tasks and all that come of them, in the order in which they are waited for. -/
def inRounds (tasks : List BackgroundTask) : List BackgroundTask :=
  rounds (generations tasks) tasks

end BackgroundTask

/-- The background tasks of a run. -/
structure TaskGroup where
  /-- Whether the tasks run on a runtime of their own, apart from the caller's clock. -/
  isPrivate : Bool := false
  /-- The tasks left in the group since it was last closed. -/
  tasks : List BackgroundTask := []
  deriving Inhabited

namespace TaskGroup

def spawn (g : TaskGroup) (task : BackgroundTask) : TaskGroup :=
  { g with tasks := g.tasks ++ [task] }

/-- When the last of the tasks and of what they spawn wakes up, and no earlier than `now`. -/
def lastDue (g : TaskGroup) (now : Nat) : Nat :=
  (BackgroundTask.inRounds g.tasks).foldl (fun latest task => max latest task.due) now

/-- The tasks that take effect when the group is waited for. -/
def effective (g : TaskGroup) : List String :=
  ((BackgroundTask.inRounds g.tasks).filter fun task => !task.panics).map (·.name)

end TaskGroup

/-! ## Scopes -/

/-- What the body of a run can reach of the run. -/
structure Scope where
  flow : Flow
  runId : Uuid
  runName : Option String
  /-- The latest state that was applied. -/
  state : State
  parameters : Parameters
  mode : ExecutionMode
  group : TaskGroup
  /-- How often a key was asked for, by task key. -/
  dynamicKeys : Dict UInt32 := ∅
  /-- The final states of nested runs, in the order they finished. -/
  children : List State := []

namespace Scope

/-- The next key for tasks with a task key: the decimal numbers from 0 on. -/
def nextDynamicKey (s : Scope) (taskKey : String) : String × Scope :=
  let n := (s.dynamicKeys.get? taskKey).getD 0
  (toString n.toNat, { s with dynamicKeys := s.dynamicKeys.insert taskKey (n + 1) })

def recordChild (s : Scope) (state : State) : Scope := { s with children := s.children ++ [state] }

end Scope

/-- What a body is shown of its run. -/
structure ScopeView where
  flowName : String
  runId : Uuid
  runName : Option String
  state : State
  parameters : Parameters
  taskRunner : TaskRunner
  children : List State

def Scope.view (s : Scope) : ScopeView :=
  { flowName := s.flow.name
    runId := s.runId
    runName := s.runName
    state := s.state
    parameters := s.parameters
    taskRunner := s.flow.taskRunner
    children := s.children }

end RunEngine
