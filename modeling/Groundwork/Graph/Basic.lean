import Groundwork.Failure
import Groundwork.Graph.Cycle

namespace Groundwork

/-! The graph of tasks and their needs.

A graph is built from declarations only when no name is declared twice, every need is declared, and
no task needs itself, directly or through others.  Its plans put the needs of a task before it, in
their listed order.
-/

namespace Graph

/-- The first task that needs an undeclared name, with its first such need. -/
def firstUndeclared? (tasks : List Task) : Option (String × String) :=
  let names := tasks.map Task.name
  tasks.findSome? fun task =>
    (task.needs.find? (fun need => !names.contains need)).map fun need => (task.name, need)

/-- The tasks left when those are taken out whose needs are all taken out before; each round takes
out all that are ready. -/
def unplaced : Nat → List String → List Task → List Task
  | 0, _, remaining => remaining
  | rounds + 1, placed, remaining =>
      let ready (task : Task) : Bool := task.needs.all (fun need => placed.contains need)
      unplaced rounds ((remaining.filter ready).map Task.name ++ placed)
        (remaining.filter (fun task => !ready task))

/-- Whether the tasks can be put in an order with every need before the task. -/
def isOrderable (tasks : List Task) : Bool :=
  (unplaced tasks.length [] tasks).isEmpty

/-- From a need to a task that lists it. -/
structure Edge where
  need : String
  task : String
  deriving DecidableEq

/-- The needs of all tasks, one edge for each time that a task lists one. -/
def listedEdges (tasks : List Task) : List Edge :=
  tasks.flatMap fun task => task.needs.map fun need => ⟨need, task.name⟩

/-- An edge that is there already is not added again.  The newest edge stands first. -/
def addEdge (edges : List Edge) (edge : Edge) : List Edge :=
  if edge ∈ edges then edges else edge :: edges

def edges (tasks : List Task) : List Edge :=
  (listedEdges tasks).foldl addEdge []

end Graph

structure TaskGraph where
  tasks : List Task
  distinct : firstRepeated? [] (tasks.map Task.name) = none
  declared : Graph.firstUndeclared? tasks = none
  orderable : Graph.isOrderable tasks = true

namespace TaskGraph

/-- Of several faults a repeated name is reported first, then an undeclared need, then a cycle. -/
def ofTasks (tasks : List Task) : Except Failure TaskGraph :=
  match distinct : firstRepeated? [] (tasks.map Task.name) with
  | some name => .error (.duplicateTask name)
  | none =>
      match declared : Graph.firstUndeclared? tasks with
      | some (task, need) => .error (.unknownPrerequisite task need)
      | none =>
          if orderable : Graph.isOrderable tasks = true then
            .ok ⟨tasks, distinct, declared, orderable⟩
          else .error (.cycle (Graph.cyclePath tasks))

def get? (graph : TaskGraph) (name : String) : Option Task :=
  Graph.find? graph.tasks name

def contains (graph : TaskGraph) (name : String) : Bool :=
  (graph.get? name).isSome

def taskCount (graph : TaskGraph) : Nat :=
  graph.tasks.length

def edges (graph : TaskGraph) : List Graph.Edge :=
  Graph.edges graph.tasks

/-- A need that is listed twice is one dependency. -/
def dependencyCount (graph : TaskGraph) : Nat :=
  graph.edges.length

def isEmpty (graph : TaskGraph) : Bool :=
  graph.tasks.isEmpty

def position (graph : TaskGraph) (name : String) : Nat :=
  (graph.tasks.map Task.name).idxOf name

/-- The tasks that edges lead to from the name, newest edge first. -/
def neighbours (graph : TaskGraph) (name : String) : List Task :=
  ((graph.edges.filter fun edge => edge.need = name).map Graph.Edge.task).filterMap graph.get?

/-- The tasks that need the name, in declaration order. -/
def dependents (graph : TaskGraph) (name : String) : List Task :=
  if graph.contains name then
    (graph.neighbours name).mergeSort fun task other =>
      graph.position task.name ≤ graph.position other.name
  else []

def shown (graph : TaskGraph) : String :=
  "TaskGraph \x7b tasks: " ++ toString graph.taskCount ++ ", dependencies: " ++
    toString graph.dependencyCount ++ " \x7d"

def planNames (plan : List Task) : List String :=
  plan.map Task.name

/-- How far a depth-first traversal has come: the names it has come to, and the tasks it is done
with. -/
structure Traversal where
  visited : List String
  plan : List Task

/-- Adds a task to the plan behind its needs, unless the traversal came to it before.  A name is
marked before its needs are looked at. -/
def Traversal.visit (tasks : List Task) : Nat → Traversal → String → Traversal
  | 0, traversal, _ => traversal
  | fuel + 1, traversal, name =>
      if name ∈ traversal.visited then traversal
      else
        match Graph.find? tasks name with
        | none => traversal
        | some task =>
            let inside :=
              task.needs.foldl (Traversal.visit tasks fuel) ⟨name :: traversal.visited, traversal.plan⟩
            ⟨inside.visited, inside.plan ++ [task]⟩

/-- Visits the targets one after another, up to the first that is not declared.  The tasks on a path
of needs differ, so that no path is longer than the list of tasks. -/
def visitTargets (graph : TaskGraph) : Traversal → List String → Except Failure Traversal
  | traversal, [] => .ok traversal
  | traversal, target :: rest =>
      if graph.contains target then
        visitTargets graph (traversal.visit graph.tasks graph.tasks.length target) rest
      else .error (.unknownTask target)

/-- The order in which the targets and all that they need are run. -/
def resolve (graph : TaskGraph) (targets : List String) : Except Failure (List Task) :=
  match graph.visitTargets ⟨[], []⟩ targets with
  | .error failure => .error failure
  | .ok traversal => .ok traversal.plan

end TaskGraph

end Groundwork
