import Groundwork.Rehearsal.Toolbox
import Groundwork.Text.Lines

namespace Groundwork.Rehearsal

/-! What a program's name stands for.

A name with a slash is a path; any other name is looked for in the directories of a search path.  A
script may name the program that it is for, which may be a script again.
-/

inductive Image where
  | tool (act : Tool)
  | shell
  | starter
  /-- Text that does not say which program it is for. -/
  | text

structure Executable where
  image : Image
  /-- What it is called by. -/
  name : String
  path : String
  arguments : List String

namespace Executable

/-- How many scripts may stand between a name and the program that carries it out. -/
def scriptLimit : Nat := 4

def standardPath : String := "/bin:/usr/bin"

def imageNamed (name : String) : Image :=
  if shells.contains name then .shell
  else if starters.contains name then .starter
  else
    match tools.lookup name with
    | some tool => .tool tool
    | none => .text

/-- The program that a script is for, and the one argument that may stand behind it. -/
def interpreterOf? (bytes : ByteArray) : Option (String × Option String) :=
  match (Text.Utf8.readReplacing bytes).toList with
  | '#' :: '!' :: rest =>
      let line := (rest.takeWhile (· != '\n')).dropWhile Char.isWhitespace
      let program := line.takeWhile (fun letter => !letter.isWhitespace)
      let argument := Text.trimLetters (line.drop program.length)
      if program.isEmpty then none
      else some (String.ofList program, if argument.isEmpty then none else some (String.ofList argument))
  | _ => none

def load (store : Store) : Nat → String → String → List String → Except IoCause Executable
  | 0, _, _, _ => .error .linkLoop
  | fuel + 1, name, path, arguments =>
      match store.entryAt true path with
      | .error cause => .error cause
      | .ok (_, .file bytes mode) =>
          if !(Entry.file bytes mode).isExecutable then .error .denied
          else
            match imageName? bytes, interpreterOf? bytes with
            | some tool, _ => .ok ⟨imageNamed tool, name, path, arguments⟩
            | none, some (program, argument) =>
                load store fuel program program (argument.toList ++ path :: arguments)
            | none, none => .ok ⟨.text, name, path, arguments⟩
      | .ok _ => .error .denied

/-- Looks in one directory after another.  A file that may not be executed is only complained about
when no later directory has the program. -/
def search (store : Store) (name : String) (arguments : List String) :
    Bool → List String → Except IoCause Executable
  | refused, [] => .error (if refused then .denied else .notFound)
  | refused, directory :: rest =>
      let path := if directory.isEmpty then name else directory ++ "/" ++ name
      match load store scriptLimit name path arguments with
      | .ok executable => .ok executable
      | .error cause =>
          if cause = .notFound ∨ cause = .notDirectory then search store name arguments refused rest
          else if cause = .denied then search store name arguments true rest
          else .error cause

def find (store : Store) (environment : List (String × String)) (name : String) (arguments : List String) :
    Except IoCause Executable :=
  if name.isEmpty then .error .notFound
  else if name.toList.contains '/' then load store scriptLimit name name arguments
  else
    let path := (Table.get? "PATH" environment).getD standardPath
    search store name arguments false (Text.split ':' path)

end Executable

end Groundwork.Rehearsal
