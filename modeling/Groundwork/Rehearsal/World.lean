import Groundwork.Child.Machine
import Groundwork.Rehearsal.Cloning
import Groundwork.Rehearsal.Search
import Groundwork.Rehearsal.Startup

namespace Groundwork.Rehearsal

/-! A system whose programs run in memory: the files that it comes with, and what starting a program
does.
-/

namespace World

/-- The process number of the parent of everything that is started. -/
def parentNumber : Nat := 1000

def depth : Nat := 400

/-- No argument and no variable takes up as many bytes. -/
def argumentLimit : Nat := 131072

def programPlace : Location := ["usr", "bin"]

def programNames : List String := shells ++ starters ++ tools.map Prod.fst

def files : List (Location × Entry) :=
  [(["usr"], .directory 0o755), (programPlace, .directory 0o755), (["bin"], .link "usr/bin"),
    (["dev"], .directory 0o755), (["dev", "null"], .sink), (["tmp"], .directory 0o777)] ++
    programNames.map fun name => (programPlace ++ [name], .file (imageOf name) 0o755)

def install (store : Store) : Store :=
  files.foldl (fun store (place, entry) => store.put place entry) store

def environmentTexts (environment : Table String) : List String :=
  environment.map fun (name, value) => name ++ "=" ++ value

/-- Why no program can be called with these texts. -/
def refusal? (launch : Launch) : Option IoCause :=
  let texts := launch.program :: launch.arguments ++ environmentTexts launch.environment
  if (launch.directory.toList ++ texts).any (fun text => text.toList.contains '\x00') then
    some .nulInCommand
  else if texts.any (fun text => argumentLimit ≤ text.utf8ByteSize) then some (.system 7)
  else none

/-- The store as seen from the directory that a program starts in. -/
def enter (store : Store) : Option String → Except IoCause Store
  | none => .ok store
  | some path =>
      match store.entryAt true path with
      | .error cause => .error cause
      | .ok (place, .directory _) => .ok { store with current := place }
      | .ok _ => .error .notDirectory

def parent (store : Store) : Process where
  store := store
  buffers := [.empty, .empty]
  channels := [(1, .buffer 0), (2, .buffer 1)]
  input := .empty
  clock := 0
  vars := []
  functions := []
  directory := "/"
  name := ""
  arguments := []
  status := 0
  outputStatus := none
  flow := .onward
  number := parentNumber
  parentNumber := 1
  strict := false
  demanding := false
  tested := false
  loops := 0
  hidden := []
  finalScript := ""
  line := 1

def waitFor (process : Process) : Wait :=
  match process.flow with
  | .stopped wait => wait
  | _ =>
      match process.exit with
      | .status number => .ended (.exited number)
      | .signal _ => .ended .signalled

/-- Runs a program until it ends or its parent stops waiting. -/
def carryOut (executable : Executable) (environment : Table String) (patience : Patience)
    (store : Store) : Process :=
  let surroundings : Surroundings := ⟨patience, parentNumber⟩
  let process := parent store
  if Process.isLate surroundings 0 then { process with flow := .stopped .timedOut }
  else (Level.ofDepth surroundings depth).run executable environment process

end World

/-- The programs of the system. -/
def programs : Programs := fun launch patience store =>
  match World.refusal? launch with
  | some cause => .error cause
  | none =>
      match World.enter store launch.directory with
      | .error cause => .error cause
      | .ok entered =>
          match Executable.find entered launch.environment launch.program launch.arguments with
          | .error cause => .error cause
          | .ok executable =>
              match executable.image with
              | .text => .error .badExecutable
              | _ =>
                  let child := World.carryOut executable launch.environment patience entered
                  .ok ⟨World.waitFor child, { child.store with current := store.current },
                    child.buffers[0]?.getD .empty, child.buffers[1]?.getD .empty⟩

/-- A host in memory.  Its programs are found along the search path of the environment. -/
def host (environment : Table String) (home : Option String) : Host where
  environment := environment
  home := home
  programs := programs
  finder := finder fun name => Table.get? name environment
  cloner := clones
  runtime := .ok ()

end Groundwork.Rehearsal
