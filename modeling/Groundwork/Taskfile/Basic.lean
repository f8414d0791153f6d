import Groundwork.Act
import Groundwork.Graph.Basic
import Groundwork.Task.Encoding
import Groundwork.Toml.Document

namespace Groundwork

/-! Taskfiles: default variables and task declarations, with the directory that paths start from. -/

inductive Source where
  | file (path : String)
  | builtin
  deriving DecidableEq, Repr

def Source.shown : Source → String
  | .file path => path
  | .builtin => "<builtin>"

structure Taskfile where
  source : Source
  /-- The directory that relative paths in steps start from. -/
  baseDirectory : String
  vars : Vars
  tasks : List Task

namespace Taskfile

def fileName : String := "bminfra.toml"

/-- The variables and tasks of a document; keys that no one knows are passed over. -/
def contentOf? (members : List (String × Json.Value)) : Option (Vars × List Task) := do
  let vars ← Field.withDefault? .empty Field.vars? "vars" members
  let tasks ← Field.withDefault? [] (Task.decodeList? .toml) "task" members
  return (vars, tasks)

def parse (text : String) (source : Source) (baseDirectory : String) : Except Failure Taskfile :=
  match Toml.read text with
  | none => .error (.toml "malformed document")
  | some entries =>
      match contentOf? (Toml.embedEntries entries) with
      | none => .error (.toml "not the shape of a taskfile")
      | some (vars, tasks) => .ok ⟨source, baseDirectory, vars, tasks⟩

def parsedNote (taskfile : Taskfile) : Note :=
  .logged .debug ("Taskfile parsed from " ++ taskfile.source.shown ++ ": " ++
    toString taskfile.tasks.length ++ " tasks, " ++ toString taskfile.vars.size ++ " vars")

def graph (taskfile : Taskfile) : Except Failure TaskGraph :=
  TaskGraph.ofTasks taskfile.tasks

end Taskfile

end Groundwork
