import Groundwork.Log
import Groundwork.Path
import Groundwork.Task.Basic
import Groundwork.Vars

namespace Groundwork

/-! Steps with their references expanded and their paths made absolute.

Scripts keep their references: the shell that runs them sees the variables.
-/

/-- All that a step needs besides its declaration. -/
structure StepContext where
  task : String
  /-- The first step of a task has index one. -/
  index : Nat
  vars : Vars
  environment : Environment
  baseDirectory : String
  timeout : Option Duration
  /-- The log tag in force while the step runs. -/
  tag : Option Log.Tag

namespace StepContext

def expand (context : StepContext) (text : String) : Except Failure String :=
  context.vars.expand context.environment text

def expandAll (context : StepContext) (texts : List String) : Except Failure (List String) :=
  context.vars.expandAll context.environment texts

/-- A path that is relative after expansion starts at the base directory. -/
def resolvePath (context : StepContext) (path : String) : Except Failure String := do
  let expanded ← context.expand path
  return Path.join context.baseDirectory expanded

def resolveDirectory (context : StepContext) (directory : Option String) :
    Except Failure (Option String) :=
  match directory with
  | some path => do
      let resolved ← context.resolvePath path
      return some resolved
  | none => .ok (some context.baseDirectory)

end StepContext

namespace Action

/-- The first reference that nothing is known about fails, in the order of the fields. -/
def resolve (context : StepContext) : Action → Except Failure Action
  | .shell script directory => do
      let directory ← context.resolveDirectory directory
      return .shell script directory
  | .exec program arguments directory => do
      let program ← context.expand program
      let arguments ← context.expandAll arguments
      let directory ← context.resolveDirectory directory
      return .exec program arguments directory
  | .ensureResource name listing pattern create directory => do
      let name ← context.expand name
      let listing ← context.expandAll listing
      let directory ← context.resolveDirectory directory
      return .ensureResource name listing pattern create directory
  | .copyIfAbsent source destination => do
      let source ← context.resolvePath source
      let destination ← context.resolvePath destination
      return .copyIfAbsent source destination
  | .cloneIfAbsent url branch destination => do
      let url ← context.expand url
      let branch ← context.expand branch
      let destination ← context.resolvePath destination
      return .cloneIfAbsent url branch destination
  | .tfvars file values => do
      let file ← context.resolvePath file
      return .tfvars file values
  | .remove path => do
      let path ← context.resolvePath path
      return .remove path

end Action

end Groundwork
