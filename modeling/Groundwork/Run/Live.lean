import Groundwork.Child.Machine
import Groundwork.Resource.Guard
import Groundwork.Resource.Listing
import Groundwork.Run.Executor
import Groundwork.Run.ValueExpansion
import Groundwork.Staging.Copy
import Groundwork.Staging.Removal
import Groundwork.Staging.Variables

namespace Groundwork.LiveRun

/-! Carrying out steps on a machine. -/

def runCommand (host : Host) (context : StepContext) (command : Command) : Act Machine StepOutcome := do
  command.run host context.timeout
  return .ran

def listed (host : Host) (command : Command) (extract : Listing.Extraction) :
    Act Machine (List String) := do
  let output ← command.capture host
  Act.log .trace ("CommandLister output: " ++ Text.quoted output)
  return Listing.parse extract output

/-- Everything that can be wrong with the declaration is found before the listing command runs. -/
def ensureResource (host : Host) (context : StepContext) (name : String) (listing : List String)
    (pattern : Option String) (create : String) (directory : Option String) :
    Act Machine StepOutcome := do
  let vars := context.vars.entries
  let lister ← Act.ofExcept (Command.ofWords listing directory vars)
  let extract ← Act.ofExcept (Listing.extraction pattern)
  let creation := (Command.shell create directory vars).run host context.timeout
  match ← Guard.ensure (listed host lister extract) name creation with
  | .initialized => return .ran
  | .alreadyPresent => return .skipped ("'" ++ name ++ "' already exists")

def copyIfAbsent (source destination : String) : Act Store StepOutcome := do
  if ← Staging.copyIfAbsent source destination then return .ran
  else return .skipped (destination ++ " already exists")

def cloneIfAbsent (cloner : Git.Cloner) (url branch destination : String) :
    Act Store StepOutcome := do
  if ← Act.read (Store.isPresent · destination) then
    Act.log .info (destination ++ " already exists, not cloning")
    return .skipped (destination ++ " already exists")
  Git.cloneBranch cloner url branch destination
  return .ran

def setVariables (context : StepContext) (file : String) (values : List (String × Toml.Value)) :
    Act Store StepOutcome := do
  let members ← Act.ofExcept (context.vars.expandEntries context.environment values)
  Staging.updateVariables file members
  return .ran

def remove (path : String) : Act Store StepOutcome := do
  if ← Staging.removePath path then return .ran
  else return .skipped (path ++ " does not exist")

def perform (host : Host) (context : StepContext) : Action → Act Machine StepOutcome
  | .shell script directory =>
      runCommand host context (.shell script directory context.vars.entries)
  | .exec program arguments directory =>
      runCommand host context ⟨program, arguments, directory, context.vars.entries⟩
  | .ensureResource name listing pattern create directory =>
      ensureResource host context name listing pattern create directory
  | .copyIfAbsent source destination => Act.onStore (copyIfAbsent source destination)
  | .cloneIfAbsent url branch destination =>
      Act.onStore (cloneIfAbsent host.cloner url branch destination)
  | .tfvars file values => Act.onStore (setVariables context file values)
  | .remove path => Act.onStore (remove path)

def execute (host : Host) (step : Step) (context : StepContext) : Act Machine StepOutcome :=
  (Act.ofExcept (step.action.resolve context)).andThen (perform host context)

def executor (host : Host) : Executor Machine := ⟨execute host⟩

end Groundwork.LiveRun
