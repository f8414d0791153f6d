import Groundwork.Child.Command
import Groundwork.Text.Lines

namespace Groundwork.Rehearsal

/-! Where a program that is named lies. -/

namespace Search

/-- Whether a program is named by a path rather than by a bare name. -/
def isPathName (program : String) : Bool :=
  let lead := Path.isAbsolute program || (Path.parts program).head? = some "."
  1 < (Path.components program).length + (if lead then 1 else 0)

/-- A named path as seen from the working directory. -/
def fromWorkDirectory (store : Store) (program : String) : String :=
  if Path.isAbsolute program then program
  else (Path.components program).foldl Path.join (Store.pathOf store.current)

/-- A search directory whose first name is a tilde lies in the home directory. -/
def searchDirectory (home : Option String) (directory : String) : String :=
  match Path.components directory, home with
  | "~" :: rest, some home =>
      if (Path.parts directory).head? = some "~" && !Path.isAbsolute directory then
        rest.foldl Path.join home
      else directory
  | _, _ => directory

/-- Where a program could be, in the order of the search path. -/
def candidates (store : Store) (environment : Environment) (program : String) : List String :=
  if isPathName program then [fromWorkDirectory store program]
  else
    match environment "PATH" with
    | none => []
    | some directories =>
        (Text.split ':' directories).map fun directory =>
          Path.join (searchDirectory (environment.nonempty "HOME") directory) program

def isProgram (store : Store) (path : String) : Bool :=
  match store.entry? path with
  | some entry => entry.isFile && entry.isExecutable
  | none => false

end Search

def finder (environment : Environment) : Finder := fun program store =>
  (Search.candidates store environment program).find? (Search.isProgram store)

end Groundwork.Rehearsal
