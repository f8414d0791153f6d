import Groundwork.IoCause
import Groundwork.Path
import Groundwork.Store.Basic

namespace Groundwork.Store

/-! Where a path leads in a store.

A path is followed name by name.  `advance` goes as far as it can without following a link; `follow`
takes the link that it met and goes on, up to a number of links.
-/

/-- The longest name, in bytes. -/
def nameLimit : Nat := 255

/-- No path is as long as this, in bytes. -/
def pathLimit : Nat := 4096

/-- How many links one path may pass. -/
def linkLimit : Nat := 40

/-- The names and dots of a path, in order.  A slash at the end asks for a directory, as a dot
would. -/
def stepsOf (path : String) : List String :=
  Path.parts path ++ (if Path.endsInSlash path then ["."] else [])

def startOf (store : Store) (path : String) : Location :=
  if Path.isAbsolute path then [] else store.current

inductive Progress where
  | arrived (place : Location) (entry : Entry)
  /-- Only the last name is missing. -/
  | missing (place : Location)
  | linked (directory : Location) (target : String) (rest : List String)

/-- Follows names from a directory.  The last name may be a link itself unless `through` is set. -/
def advance (store : Store) (through : Bool) : Location → List String → Except IoCause Progress
  | here, [] =>
      match store.get? here with
      | some entry => .ok (.arrived here entry)
      | none => .error .notFound
  | here, name :: rest =>
      if name = "." then advance store through here rest
      else if name = ".." then advance store through here.dropLast rest
      else if nameLimit < name.utf8ByteSize then .error .nameTooLong
      else
        let place := here ++ [name]
        match store.get? place with
        | none => if rest.isEmpty then .ok (.missing place) else .error .notFound
        | some (.directory _) => advance store through place rest
        | some (.link target) =>
            if rest.isEmpty && !through then .ok (.arrived place (.link target))
            else .ok (.linked here target rest)
        | some entry => if rest.isEmpty then .ok (.arrived place entry) else .error .notDirectory

inductive Spot where
  | taken (place : Location) (entry : Entry)
  /-- Nothing is there, but the directory that would hold it is. -/
  | vacant (place : Location)

def Spot.entry? : Spot → Option Entry
  | .taken _ entry => some entry
  | .vacant _ => none

def Spot.place : Spot → Location
  | .taken place _ | .vacant place => place

/-- The first argument counts the links that may still be followed. -/
def follow (store : Store) (through : Bool) : Nat → Location → List String → Except IoCause Spot
  | links, here, steps =>
      match store.advance through here steps with
      | .error cause => .error cause
      | .ok (.arrived place entry) => .ok (.taken place entry)
      | .ok (.missing place) => .ok (.vacant place)
      | .ok (.linked directory target rest) =>
          match links with
          | 0 => .error .linkLoop
          | links + 1 =>
              follow store through links (if Path.isAbsolute target then [] else directory)
                (stepsOf target ++ rest)

/-- Paths that no store can hold. -/
def refusedPath (path : String) : Option IoCause :=
  if path.toList.contains '\x00' then some .nulInName
  else if path.isEmpty then some .notFound
  else if pathLimit ≤ path.utf8ByteSize then some .nameTooLong
  else none

def locateSteps (store : Store) (through : Bool) (path : String) (steps : List String) :
    Except IoCause Spot :=
  match refusedPath path with
  | some cause => .error cause
  | none => store.follow through linkLimit (store.startOf path) steps

/-- The spot of a path; a link at its end is followed when `through` is set. -/
def locate (store : Store) (through : Bool) (path : String) : Except IoCause Spot :=
  store.locateSteps through path (stepsOf path)

/-- The spot of a path without the slashes at its end, where its last name itself counts. -/
def locateName (store : Store) (path : String) : Except IoCause Spot :=
  store.locateSteps false path (Path.parts path)

/-- The entry of a path, which must be there. -/
def entryAt (store : Store) (through : Bool) (path : String) : Except IoCause (Location × Entry) :=
  match store.locate through path with
  | .error cause => .error cause
  | .ok (.vacant _) => .error .notFound
  | .ok (.taken place entry) => .ok (place, entry)

def entry? (store : Store) (path : String) : Option Entry :=
  match store.entryAt true path with
  | .ok (_, entry) => some entry
  | .error _ => none

/-- Whether something is there once links are followed. -/
def isPresent (store : Store) (path : String) : Bool :=
  (store.entry? path).isSome

def isDirectory (store : Store) (path : String) : Bool :=
  ((store.entry? path).map Entry.isDirectory).getD false

def isFile (store : Store) (path : String) : Bool :=
  ((store.entry? path).map Entry.isFile).getD false

/-- The last name of a path, when a name stands there and not a dot. -/
def lastName? (path : String) : Option String :=
  match (Path.parts path).getLast? with
  | some name => if name = "." ∨ name = ".." then none else some name
  | none => none

end Groundwork.Store
