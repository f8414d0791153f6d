import Groundwork.Text.Quoted
import Groundwork.Toml.Value

namespace Groundwork

/-! Tasks: named lists of steps, with the names of the tasks that they need done before. -/

inductive Action where
  /-- Runs a script through the shell, which sees the variables in its environment. -/
  | shell (script : String) (directory : Option String)
  | exec (program : String) (arguments : List String) (directory : Option String)
  /-- Runs a creating script unless a listing command already names the resource. -/
  | ensureResource (name : String) (listing : List String) (pattern : Option String)
      (create : String) (directory : Option String)
  | copyIfAbsent (source : String) (destination : String)
  | cloneIfAbsent (url : String) (branch : String) (destination : String)
  /-- Merges values into a JSON file of variables. -/
  | tfvars (file : String) (values : List (String × Toml.Value))
  | remove (path : String)
  deriving DecidableEq, Inhabited

structure Step where
  label : Option String
  /-- A failure becomes a warning. -/
  bestEffort : Bool
  action : Action
  deriving DecidableEq, Inhabited

structure Task where
  name : String
  description : Option String
  /-- Run in this order before the steps. -/
  needs : List String
  steps : List Step
  deriving DecidableEq, Inhabited

namespace Action

def kind : Action → String
  | .shell .. => "shell"
  | .exec .. => "exec"
  | .ensureResource .. => "ensure_resource"
  | .copyIfAbsent .. => "copy_if_absent"
  | .cloneIfAbsent .. => "clone_if_absent"
  | .tfvars .. => "tfvars"
  | .remove .. => "remove"

def shellProgram : String := "sh"

/-- The programs that must be installed for the action. -/
def requiredPrograms : Action → List String
  | .shell .. => [shellProgram]
  | .exec program .. => [program]
  | .ensureResource _ listing .. => shellProgram :: listing.head?.toList
  | .copyIfAbsent .. | .cloneIfAbsent .. | .tfvars .. | .remove .. => []

/-- A command as one line: its words with blanks between them. -/
def commandLine (program : String) (arguments : List String) : String :=
  " ".intercalate (program :: arguments)

def shown : Action → String
  | .shell script _ => "sh -c " ++ Text.quoted (Text.trim script)
  | .exec program arguments _ => commandLine program arguments
  | .ensureResource name listing .. => "ensure '" ++ name ++ "' (listed by `" ++ " ".intercalate listing ++ "`)"
  | .copyIfAbsent source destination => "copy " ++ source ++ " -> " ++ destination ++ " (if absent)"
  | .cloneIfAbsent url branch destination =>
      "clone " ++ url ++ "@" ++ branch ++ " -> " ++ destination ++ " (if absent)"
  | .tfvars file values => "set " ++ ", ".intercalate (Table.keys values) ++ " in " ++ file
  | .remove path => "remove " ++ path

end Action

namespace Step

def ofAction (action : Action) : Step := ⟨none, false, action⟩

def summary (step : Step) : String :=
  step.label.getD step.action.shown

end Step

namespace Task

/-- A task without steps only gathers the tasks it needs. -/
def isAggregate (task : Task) : Bool :=
  task.steps.isEmpty

end Task

end Groundwork
