import Groundwork.Log
import Groundwork.Task.Status

namespace Groundwork

/-! What is known of a run: the events while it goes on, and the report of it. -/

inductive Event where
  | taskStarted (task : String) (steps : Nat)
  | stepStarted (task : String) (index : Nat) (summary : String)
  | stepSkipped (task : String) (index : Nat) (reason : String)
  | stepWarning (task : String) (index : Nat) (error : String)
  | taskFinished (task : String) (status : Status)
  deriving DecidableEq, Repr

structure TaskReport where
  name : String
  status : Status
  deriving DecidableEq, Repr

/-- The report of a run; of one that was aborted, up to the task that failed. -/
structure Report where
  targets : List String
  tasks : List TaskReport
  warnings : List String
  finished : Bool
  deriving DecidableEq, Repr

namespace Report

def start (targets : List String) : Report := ⟨targets, [], [], false⟩

def executed (report : Report) : List String :=
  report.tasks.map TaskReport.name

def isSuccess (report : Report) : Bool :=
  report.finished && !report.tasks.any (fun task => task.status.isFailed)

def addTask (report : Report) (task : TaskReport) : Report :=
  { report with tasks := report.tasks ++ [task] }

def addWarning (report : Report) (warning : String) : Report :=
  { report with warnings := report.warnings ++ [warning] }

def finish (report : Report) : Report :=
  { report with finished := true }

end Report

def warningText (task : String) (index : Nat) (error : String) : String :=
  task ++ " step " ++ toString index ++ ": " ++ error

end Groundwork
