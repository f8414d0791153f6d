import Groundwork.Config.Basic
import Groundwork.Store.Files
import Groundwork.Taskfile.Builtin

namespace Groundwork.Taskfile

/-! Which taskfile is used: the one asked for, the one of the configuration, the one in the working
directory, and at last the built-in one.
-/

def noted (taskfile : Taskfile) : Act Store Taskfile := do
  Act.note taskfile.parsedNote
  return taskfile

/-- Reads a taskfile.  Its paths start at the directory that it lies in. -/
def load (path : String) : Act Store Taskfile := do
  let text ← Act.look (Store.readText path)
  let directory ←
    match Path.directory? path with
    | some directory => pure directory
    | none => Act.look Store.workDirectory
  noted (← Act.ofExcept (parse text (.file path) directory))

def locate (asked : Option String) (config : Config) (home : Option String)
    (workDirectory : String) : Act Store Taskfile :=
  match asked, config.taskfilePath home with
  | some path, _ => load path
  | none, some path => load (Path.join workDirectory path)
  | none, none => do
      let local_ := Path.join workDirectory fileName
      if ← Act.read (Store.isFile · local_) then
        load local_
      else
        Act.log .debug "No taskfile found, using builtin"
        noted (builtin workDirectory)

end Groundwork.Taskfile
