import Groundwork.Store.Directories

namespace Groundwork.Rehearsal

/-! Git repositories as they lie in a store.

A repository has a directory of its own for its records: the branch that is checked out, a reference
for every branch, and the files of the commit that a reference names.
-/

structure Branch where
  name : String
  /-- The files of its commit. -/
  files : List (Location × ByteArray)

structure Repository where
  /-- The branch that is checked out. -/
  head : String
  branches : List Branch
  /-- What is known of the branches of the remote, by their full names. -/
  tracked : List String

def recordsName : String := ".git"

def remoteName : String := "origin"

def referenceMark : String := "ref: refs/heads/"

namespace Repository

def branch? (repository : Repository) (name : String) : Option Branch :=
  repository.branches.find? (fun branch => branch.name = name)

/-- The names of all branches, local ones and those of the remote, in order. -/
def branchNames (repository : Repository) : List String :=
  (repository.branches.map Branch.name ++ repository.tracked).mergeSort (· ≤ ·)

def commitName (number : Nat) : String :=
  let digits := Nat.toDigits 16 number
  String.ofList (List.replicate (40 - digits.length) '0' ++ digits)

def putDirectory (store : Store) (place : Location) : Store :=
  if (store.get? place).isSome then store else store.put place (.directory Store.directoryMode)

/-- Puts a file below a directory, with the directories on the way to it. -/
def putFile (store : Store) (top part : Location) (bytes : ByteArray) : Store :=
  let onTheWay := (List.range part.length).map fun length => top ++ part.take length
  (onTheWay.foldl putDirectory store).put (top ++ part) (.file bytes Store.fileMode)

def putText (store : Store) (top part : Location) (text : String) : Store :=
  putFile store top part text.toUTF8

def putFiles (store : Store) (top : Location) (files : List (Location × ByteArray)) : Store :=
  files.foldl (fun store (part, bytes) => putFile store top part bytes) (putDirectory store top)

def putBranches (store : Store) (records : Location) : Nat → List Branch → Store
  | _, [] => store
  | number, branch :: rest =>
      let commit := commitName number
      let store := putText store records (["refs", "heads"] ++ Path.parts branch.name) (commit ++ "\n")
      putBranches (putFiles store (records ++ ["objects", commit]) branch.files) records (number + 1) rest

/-- Writes the records of a repository below a directory. -/
def write (repository : Repository) (place : Location) (store : Store) : Store :=
  let records := place ++ [recordsName]
  let store := putText (putDirectory store place) records ["HEAD"] (referenceMark ++ repository.head ++ "\n")
  let store := [["objects"], ["refs"], ["refs", "heads"]].foldl
    (fun store part => putDirectory store (records ++ part)) store
  let store := putBranches store records 1 repository.branches
  repository.tracked.foldl
    (fun store name => putText store records (["refs", "remotes"] ++ Path.parts name) "\n") store

def textAt? (store : Store) (place : Location) : Option String :=
  match store.get? place with
  | some (.file bytes _) => Text.Utf8.read? bytes
  | _ => none

/-- Where the records of a repository lie, given the repository or the records themselves. -/
def recordsAt? (store : Store) (place : Location) : Option Location :=
  [place ++ [recordsName], place].find? fun records =>
    (textAt? store (records ++ ["HEAD"])).isSome && (store.get? (records ++ ["refs"])).isSome

def head? (store : Store) (records : Location) : Option String :=
  match textAt? store (records ++ ["HEAD"]) with
  | none => none
  | some text =>
      let letters := (text.toList.takeWhile (· != '\n'))
      if referenceMark.toList.isPrefixOf letters then
        some (String.ofList (letters.drop referenceMark.length))
      else none

def filesBelow (store : Store) (top : Location) : List (Location × ByteArray) :=
  (store.below top).filterMap fun
    | (part, .file bytes _) => some (part, bytes)
    | _ => none

def branchOf (store : Store) (records part : Location) (reference : ByteArray) : Branch :=
  let commit := String.ofList (((Text.Utf8.readReplacing reference).toList).takeWhile (· != '\n'))
  ⟨"/".intercalate part, filesBelow store (records ++ ["objects", commit])⟩

def read? (store : Store) (place : Location) : Option Repository :=
  match recordsAt? store place with
  | none => none
  | some records =>
      match head? store records with
      | none => none
      | some head =>
          let branches := (filesBelow store (records ++ ["refs", "heads"])).map fun (part, reference) =>
            branchOf store records part reference
          let tracked := (filesBelow store (records ++ ["refs", "remotes"])).map fun (part, _) =>
            "/".intercalate part
          some ⟨head, branches, tracked⟩

end Repository

def repositoryAt? (store : Store) (path : String) : Option Repository :=
  match store.entryAt true path with
  | .ok (place, .directory _) => Repository.read? store place
  | _ => none

def currentBranch (path : String) : Act Store String := do
  match repositoryAt? (← Act.get) path with
  | none => throw (.git "no repository")
  | some repository =>
      match repository.branch? repository.head with
      | none => throw (.git "no commit on the branch")
      | some branch => return branch.name

end Groundwork.Rehearsal
