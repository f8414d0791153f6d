import Groundwork.Config.Basic
import Groundwork.Graph.Basic
import Groundwork.Json.Value
import Groundwork.Run.Preflight
import Groundwork.Run.Sequencer

namespace Groundwork.CommandLine.Display

/-! What the commands show, as lines. -/

def programName : String := "bminfra"

def versionText : String := programName ++ " 0.1.0"

def usageLines : List String :=
  ["Usage: " ++ programName ++ " [-f TASKFILE] [-d] COMMAND",
    "Commands: run [--dry-run] [--json] TASK..., plan TASK..., list, check TASK..., config"]

def complaint (text : String) : String :=
  programName ++ ": " ++ text

def spaces (count : Nat) : String :=
  String.ofList (List.replicate count ' ')

/-- At least `width` letters, filled up behind the text. -/
def padEnd (width : Nat) (text : String) : String :=
  text ++ spaces (width - text.length)

/-- At least `width` letters, filled up before the text. -/
def padStart (width : Nat) (text : String) : String :=
  spaces (width - text.length) ++ text

def stepLine (step : Step) : String :=
  "       - " ++ step.summary ++ (if step.bestEffort then " (best effort)" else "")

/-- A task of a plan by its place, and its steps below it. -/
def planLines (plan : List Task) : List String :=
  (plan.zipIdx 1).flatMap fun (task, index) =>
    (padStart 3 (toString index) ++ ". " ++ task.name) :: task.steps.map stepLine

/-- The column of names is as wide as the name that takes up the most bytes. -/
def nameWidth (tasks : List Task) : Nat :=
  (tasks.map fun task => task.name.utf8ByteSize).foldl max 0

def taskLine (width : Nat) (task : Task) : String :=
  let shown := padEnd width task.name ++ "  " ++ task.description.getD ""
  if task.needs.isEmpty then shown else shown ++ " [needs: " ++ ", ".intercalate task.needs ++ "]"

def taskLines (tasks : List Task) : List String :=
  tasks.map (taskLine (nameWidth tasks))

def toolLine (status : Preflight.ToolStatus) : String :=
  match status.path with
  | some path => "ok       " ++ padEnd 12 status.program ++ " " ++ path
  | none => "missing  " ++ status.program

/-- Where the configuration comes from; an empty line follows. -/
def sourceLines (path : String) (isPresent : Bool) (taskfile : String) (limit : Option Duration) :
    List String :=
  ["config file: " ++ (if isPresent then path else path ++ " (not present)"),
    "taskfile:    " ++ taskfile,
    "step timeout: " ++ Text.shownOption (limit.map Duration.shown), ""]

def variableLines (vars : Vars) : List String :=
  vars.entries.map fun (name, value) => name ++ "=" ++ value

/-- What is shown of an event, given how many steps the running task has. -/
def eventLine? (steps : Nat) : Event → Option String
  | .taskStarted task _ => some ("==> " ++ task)
  | .stepStarted _ index summary =>
      some ("  -> [" ++ toString index ++ "/" ++ toString steps ++ "] " ++ summary)
  | .stepSkipped _ _ reason => some ("     skipped: " ++ reason)
  | .stepWarning _ _ error => some ("     warning: " ++ error ++ " (continuing)")
  | .taskFinished .. => none

def stepsAfter (steps : Nat) : Event → Nat
  | .taskStarted _ announced => announced
  | _ => steps

def doneLines (report : Report) : List String :=
  let names := ", ".intercalate report.executed
  if report.warnings.isEmpty then ["done: " ++ names]
  else
    ("done with " ++ toString report.warnings.length ++ " warning(s): " ++ names) ::
      report.warnings.map ("  " ++ ·)

def reportValue (report : Report) : Json.Value :=
  .ofMembers
    [("targets", .ofStrings report.targets),
      ("tasks", .array (report.tasks.map fun task =>
        .ofMembers [("name", .string task.name), ("status", task.status.encode)])),
      ("warnings", .ofStrings report.warnings), ("finished", .bool report.finished)]

end Groundwork.CommandLine.Display
