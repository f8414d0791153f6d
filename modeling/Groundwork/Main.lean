import Groundwork.CommandLine.Session
import Groundwork.Rehearsal.World

/-! The program.

The working directory, the configuration and the names on the search path are read into a store; the
session runs on it, and what it has changed is written back.
-/

namespace Groundwork.Main

def readEnvironment : IO (Table String) := do
  let bytes ← IO.FS.readBinFile "/proc/self/environ"
  let settings := Text.split '\x00' (Text.Utf8.readReplacing bytes)
  return Table.ofList (settings.filterMap fun setting =>
    match Rehearsal.Builtin.splitAssignment setting with
    | (name, some value) => some (name, value)
    | (_, none) => none)

def readUser : IO (Option String) := do
  let lines := ((← IO.FS.readFile "/proc/self/status").splitOn "\n").map (·.splitOn "\t")
  return lines.findSome? fun
    | "Uid:" :: number :: _ => some number
    | _ => none

/-- The home directory: what the environment says, or else what the list of users says. -/
def readHome (environment : Table String) : IO (Option String) := do
  match (Table.get? "HOME" environment).filter (! ·.isEmpty) with
  | some home => return some home
  | none =>
      try
        let user ← readUser
        let entries := ((← IO.FS.readFile "/etc/passwd").splitOn "\n").map (·.splitOn ":")
        return entries.findSome? fun
          | [_, _, number, _, _, home, _] => if some number = user then some home else none
          | _ => none
      catch _ => return none

/-- Puts an entry into a store, with the directories on the way to it. -/
def putWithParents (store : Store) (place : Location) (entry : Entry) : Store :=
  let outer := (List.range place.length).map fun length => place.take length
  (outer.foldl Rehearsal.Repository.putDirectory store).put place entry

def readFile (path : String) (store : Store) : IO Store := do
  try
    let bytes ← IO.FS.readBinFile path
    return putWithParents store (Path.parts path) (.file bytes Store.directoryMode)
  catch _ => return store

/-- Reads the working directory; links to directories are not followed. -/
def readWork (store : Store) : IO Store := do
  let top ← IO.currentDir
  let paths ← top.walkDir fun path => return (← path.symlinkMetadata).type == .dir
  let place := Path.parts top.toString
  let rooted := putWithParents store place (.directory Store.directoryMode)
  paths.foldlM (fun store path => do
    if ← path.isDir then
      return putWithParents store (Path.parts path.toString) (.directory Store.directoryMode)
    else readFile path.toString store)
    { rooted with current := place }

def readNames (store : Store) (directory : String) : IO Store := do
  try
    let found ← IO.FS.realPath directory
    let entries ← found.readDir
    return entries.foldl (fun store entry =>
      let place := Path.parts found.toString ++ [entry.fileName]
      if (store.get? place).isSome then store
      else putWithParents store place (.file .empty Store.directoryMode)) store
  catch _ => return store

def readStore (environment : Table String) (home : Option String) (words : List String) : IO Store := do
  let worked ← readWork (Rehearsal.World.install .empty)
  let directories := Text.split ':' ((Table.get? "PATH" environment).getD "")
  let named ← directories.foldlM readNames worked
  let taskfiles := match CommandLine.read words with
    | .accepted invocation => invocation.taskfile.toList
    | _ => []
  let configs := home.toList.map fun home => Path.join home (Path.join Config.directoryName "bminfra.toml")
  let paths := configs ++ taskfiles
  paths.foldlM (fun store path => readFile (Path.join (Store.pathOf store.current) path) store) named

def writeEntry (place : Location) (entry : Entry) : IO Unit := do
  IO.FS.createDirAll (Store.pathOf place.dropLast)
  match entry with
  | .file bytes _ => IO.FS.writeBinFile (Store.pathOf place) bytes
  | .directory _ => IO.FS.createDirAll (Store.pathOf place)
  | .link _ | .sink => pure ()

def removeEntry (place : Location) (entry : Entry) : IO Unit := do
  if entry.isDirectory then IO.FS.removeDirAll (Store.pathOf place)
  else IO.FS.removeFile (Store.pathOf place)

def writeChanges (before after : Store) : IO Unit := do
  for (place, entry) in before.entries do
    if (after.get? place).isNone then
      try removeEntry place entry catch _ => pure ()
  for (place, entry) in after.entries do
    if before.get? place ≠ some entry then writeEntry place entry

def writeLog (home : Option String) (lines : List String) : IO Unit := do
  if !lines.isEmpty then
    let directory := Path.join (home.getD "") Config.directoryName
    let file ← IO.FS.Handle.mk (Path.join directory Log.fileName) .append
    file.putStr (CommandLine.linesText lines)

end Groundwork.Main

open Groundwork in
def main (words : List String) : IO UInt32 := do
  let environment ← Main.readEnvironment
  let home ← Main.readHome environment
  let store ← Main.readStore environment home words
  let finish := CommandLine.call (Rehearsal.host environment home) words ⟨store, []⟩
  (← IO.getStdout).write finish.printed
  (← IO.getStderr).write finish.complained
  Main.writeChanges store finish.machine.store
  Main.writeLog home finish.logged
  return finish.status.toUInt32
