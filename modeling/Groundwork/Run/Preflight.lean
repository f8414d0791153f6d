import Groundwork.Act
import Groundwork.Child.Command
import Groundwork.Distinct
import Groundwork.Text.Quoted

namespace Groundwork.Preflight

/-! Whether the programs that a plan names are installed. -/

structure ToolStatus where
  program : String
  path : Option String
  deriving DecidableEq, Repr

/-- A name that cannot be expanded stands for itself. -/
def expandOrKeep (vars : Vars) (environment : Environment) (program : String) : String :=
  match vars.expand environment program with
  | .ok expanded => expanded
  | .error _ => program

/-- The programs that the steps name, in the order of their first use. -/
def requiredPrograms (plan : List Task) (vars : Vars) (environment : Environment) : List String :=
  let named := plan.flatMap fun task => task.steps.flatMap fun step => step.action.requiredPrograms
  keepFirst (named.map (expandOrKeep vars environment))

def statusOf (finder : Finder) (store : Store) (program : String) : ToolStatus :=
  ⟨program, finder program store⟩

def statusNote (status : ToolStatus) : Note :=
  .logged .debug ("preflight: " ++ status.program ++ " -> " ++
    Text.shownOption (status.path.map Text.quotedPath))

def check (finder : Finder) (plan : List Task) (vars : Vars) (environment : Environment) :
    Act Store (List ToolStatus) :=
  fun store =>
    let statuses := (requiredPrograms plan vars environment).map (statusOf finder store)
    ⟨.ok statuses, store, statuses.map statusNote⟩

def ensureInstalled (statuses : List ToolStatus) : Except Failure Unit :=
  match (statuses.filter (fun status => status.path.isNone)).map ToolStatus.program with
  | [] => .ok ()
  | missing => .error (.missingTools missing)

end Groundwork.Preflight
