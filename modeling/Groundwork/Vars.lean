import Groundwork.Failure
import Groundwork.Table

namespace Groundwork

/-! Variables that every step of a run shares.

A reference `${NAME}` names a variable; the environment stands behind the variables.  Expansion
replaces all references of a text at once: what it puts in is never looked at again.
-/

abbrev Environment := String → Option String

structure Vars where
  entries : Table String
  sorted : entries.Sorted
  deriving DecidableEq, Repr

namespace Vars

def empty : Vars := ⟨[], List.Pairwise.nil⟩

instance : Inhabited Vars := ⟨empty⟩

instance : EmptyCollection Vars := ⟨empty⟩

def set (vars : Vars) (key value : String) : Vars :=
  ⟨vars.entries.insert key value, vars.sorted.insert key value⟩

def get? (vars : Vars) (key : String) : Option String :=
  Table.get? key vars.entries

def contains (vars : Vars) (key : String) : Bool :=
  (vars.get? key).isSome

def size (vars : Vars) : Nat :=
  vars.entries.length

/-- Writes the entries over those that are there. -/
def setAll (vars : Vars) (entries : List (String × String)) : Vars :=
  entries.foldl (fun vars entry => vars.set entry.1 entry.2) vars

def ofList (entries : List (String × String)) : Vars :=
  empty.setAll entries

def isNameStart (letter : Char) : Bool :=
  ('a' ≤ letter && letter ≤ 'z') || ('A' ≤ letter && letter ≤ 'Z') || letter == '_'

def isNameLetter (letter : Char) : Bool :=
  isNameStart letter || ('0' ≤ letter && letter ≤ '9')

/-- The name of the reference that a text begins with. -/
def referenceAt? : List Char → Option (List Char)
  | '$' :: '{' :: start :: rest =>
      if isNameStart start then
        let name := start :: rest.takeWhile isNameLetter
        if (rest.dropWhile isNameLetter).head? = some '}' then some name else none
      else none
  | _ => none

inductive Piece where
  | letter (value : Char)
  | reference (name : String)
  deriving DecidableEq, Repr

/-- Splits a text into letters and references; `skip` letters still belong to the last reference. -/
def piecesAfter : Nat → List Char → List Piece
  | _, [] => []
  | skip + 1, _ :: rest => piecesAfter skip rest
  | 0, letter :: rest =>
      match referenceAt? (letter :: rest) with
      | some name => .reference (String.ofList name) :: piecesAfter (name.length + 2) rest
      | none => .letter letter :: piecesAfter 0 rest

def pieces (text : String) : List Piece :=
  piecesAfter 0 text.toList

def isSingleReference (text : String) : Bool :=
  match text.toList with
  | '$' :: '{' :: start :: rest => isNameStart start && rest.dropWhile isNameLetter == ['}']
  | _ => false

def lookup (vars : Vars) (environment : Environment) (name : String) : Option String :=
  (vars.get? name).or (environment name)

/-- The first reference that nothing is known about fails. -/
def expandPieces (find : String → Option String) : List Piece → Except Failure (List Char)
  | [] => .ok []
  | .letter letter :: rest => do
      let letters ← expandPieces find rest
      return letter :: letters
  | .reference name :: rest =>
      match find name with
      | none => .error (.undefinedVariable name)
      | some value => do
          let letters ← expandPieces find rest
          return value.toList ++ letters

def expand (vars : Vars) (environment : Environment) (text : String) : Except Failure String := do
  let letters ← expandPieces (vars.lookup environment) (pieces text)
  return String.ofList letters

def expandAll (vars : Vars) (environment : Environment) : List String → Except Failure (List String)
  | [] => .ok []
  | text :: rest => do
      let first ← vars.expand environment text
      let others ← expandAll vars environment rest
      return first :: others

/-- Lays defaults under the variables.  A variable that is set keeps its value; for the others
`given` goes before the default, which may refer to what was set before it.  Variables set before a
failure stay. -/
def addDefaults (given environment : Environment) : Table String → Vars → Vars × Option Failure
  | [], vars => (vars, none)
  | (key, default) :: rest, vars =>
      if vars.contains key then addDefaults given environment rest vars
      else
        match given key with
        | some value => addDefaults given environment rest (vars.set key value)
        | none =>
            match vars.expand environment default with
            | .ok value => addDefaults given environment rest (vars.set key value)
            | .error failure => (vars, some failure)

end Vars

namespace Environment

def empty : Environment := fun _ => none

/-- The environment without the variables that are set to nothing. -/
def nonempty (environment : Environment) : Environment :=
  fun name => (environment name).filter (fun value => !value.isEmpty)

end Environment

end Groundwork
