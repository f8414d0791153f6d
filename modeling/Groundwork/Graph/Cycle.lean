import Groundwork.Distinct
import Groundwork.Task.Basic

namespace Groundwork.Graph

/-! Finding a cycle among tasks that cannot all be put in order.

The tasks on cycles fall into components whose members all reach each other.  Of these the component
of the task that a depth-first walk over all tasks finishes last is reported, as the path that
starts at its earliest declared member and follows the first need inside the component until a name
comes up again.
-/

def find? (tasks : List Task) (name : String) : Option Task :=
  tasks.find? (fun task => task.name = name)

def needsOf (tasks : List Task) (name : String) : List String :=
  match find? tasks name with
  | some task => task.needs
  | none => []

/-- All needs of all tasks bound how often a walk can look at a name. -/
def needCount (tasks : List Task) : Nat :=
  tasks.foldr (fun task count => task.needs.length + count) 0

/-- The names in `seen` and all that the pending names reach. -/
def spread (tasks : List Task) : Nat → List String → List String → List String
  | 0, _, seen => seen
  | _ + 1, [], seen => seen
  | fuel + 1, name :: pending, seen =>
      if name ∈ seen then spread tasks fuel pending seen
      else spread tasks fuel (needsOf tasks name ++ pending) (name :: seen)

/-- The names that a task reaches through one need or more. -/
def reached (tasks : List Task) (name : String) : List String :=
  spread tasks (2 * needCount tasks + 1) (needsOf tasks name) []

def isOnCycle (tasks : List Task) (name : String) : Bool :=
  (reached tasks name).contains name

/-- The names that are reached from a name on a cycle and reach it back, in declaration order. -/
def component (tasks : List Task) (name : String) : List String :=
  let forward := reached tasks name
  (tasks.map Task.name).filter fun other => forward.contains other && (reached tasks other).contains name

/-- A depth-first walk: the names it has come to, and those it has finished, the last one first. -/
structure Walk where
  marked : List String
  finished : List String

def Walk.visit (tasks : List Task) : Nat → Walk → String → Walk
  | 0, walk, _ => walk
  | fuel + 1, walk, name =>
      if name ∈ walk.marked then walk
      else
        let inside := (needsOf tasks name).foldl (Walk.visit tasks fuel) ⟨name :: walk.marked, walk.finished⟩
        ⟨inside.marked, name :: inside.finished⟩

/-- All names, the one that a walk in declaration order finishes last at the head. -/
def finishOrder (tasks : List Task) : List String :=
  ((tasks.map Task.name).foldl (Walk.visit tasks (tasks.length + 1)) ⟨[], []⟩).finished

/-- Follows the first need that is a member, until a name comes up again. -/
def follow (tasks : List Task) (members : List String) : Nat → List String → String → List String
  | 0, _, current => [current]
  | fuel + 1, seen, current =>
      match (needsOf tasks current).find? (fun need => members.contains need) with
      | none => [current]
      | some next =>
          if next ∈ seen then [current, next]
          else current :: follow tasks members fuel (next :: seen) next

def cyclePath (tasks : List Task) : List String :=
  match (finishOrder tasks).find? (isOnCycle tasks) with
  | none => []
  | some name =>
      let members := component tasks name
      match members with
      | [] => []
      | start :: _ => follow tasks members tasks.length [start] start

end Groundwork.Graph
