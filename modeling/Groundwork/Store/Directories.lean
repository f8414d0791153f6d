import Groundwork.Store.Files

namespace Groundwork.Store

/-! Making, removing and moving directories. -/

def busy : IoCause := .system 16

def makeDirectory (mode : Nat) (path : String) (store : Store) : Except IoCause Store :=
  match store.locateName path with
  | .error cause => .error cause
  | .ok (.taken ..) => .error .alreadyExists
  | .ok (.vacant place) => .ok (store.put place (.directory mode))

/-- Makes the first of some paths, and before it the others, which must each lie in the next one.
What was made stays when the rest fails. -/
def makeFrom : List String → Act Store Unit
  | [] => .done ()
  | path :: outer => fun store =>
      if path.isEmpty then ⟨.ok (), store, []⟩
      else
        match store.makeDirectory directoryMode path with
        | .ok made => ⟨.ok (), made, []⟩
        | .error cause =>
            if cause = .notFound then
              ((makeFrom outer).andThen fun _ => makeOrFind path) store
            else if store.isDirectory path then ⟨.ok (), store, []⟩
            else ⟨.error (.io cause), store, []⟩
where
  makeOrFind (path : String) : Act Store Unit := fun store =>
    match store.makeDirectory directoryMode path with
    | .ok made => ⟨.ok (), made, []⟩
    | .error cause =>
        if store.isDirectory path then ⟨.ok (), store, []⟩ else ⟨.error (.io cause), store, []⟩

/-- Makes a directory and all missing directories on the way to it. -/
def makeDirectories (path : String) : Act Store Unit :=
  makeFrom (path :: Path.ancestors path)

def isEmptyDirectory (store : Store) (place : Location) : Bool :=
  (store.below place).isEmpty

def removeDirectory (path : String) (store : Store) : Except IoCause Store :=
  match store.locateName path with
  | .error cause => .error cause
  | .ok (.vacant _) => .error .notFound
  | .ok (.taken place (.directory _)) =>
      match (Path.parts path).getLast? with
      | some "." => .error .invalid
      | some ".." => .error .notEmpty
      | _ =>
          if place = [] then .error busy
          else if store.isEmptyDirectory place then .ok (store.dropTree place)
          else .error .notEmpty
  | .ok (.taken ..) => .error .notDirectory

/-- Takes away a directory and all it holds.  What it holds goes first, so it is gone also when the
path no longer leads to the directory then. -/
def removeTree (path : String) : Act Store Unit := fun store =>
  match store.entryAt true path with
  | .error cause => ⟨.error (.io cause), store, []⟩
  | .ok (place, .directory _) =>
      let emptied := store.dropContent place
      match emptied.removeDirectory path with
      | .ok removed => ⟨.ok (), removed, []⟩
      | .error cause =>
          if cause = .notFound then ⟨.ok (), emptied, []⟩ else ⟨.error (.io cause), emptied, []⟩
  | .ok _ => ⟨.error (.io .notDirectory), store, []⟩

/-- Gives a file, link or directory another path.  A file replaces a file, and a directory an empty
directory. -/
def rename (source destination : String) (store : Store) : Except IoCause Store :=
  match store.locateName source, store.locateName destination with
  | .error cause, _ => .error cause
  | _, .error cause => .error cause
  | .ok (.vacant _), _ => .error .notFound
  | .ok (.taken origin entry), .ok spot =>
      if (lastName? source).isNone || (lastName? destination).isNone then .error busy
      else if !entry.isDirectory && (Path.endsInSlash source || Path.endsInSlash destination) then
        .error .notDirectory
      else if spot.place = origin then .ok store
      else if isWithin spot.place origin then .error .invalid
      else
        match spot with
        | .vacant place => .ok (store.moveTree origin place)
        | .taken place present =>
            if entry.isDirectory && !present.isDirectory then .error .notDirectory
            else if !entry.isDirectory && present.isDirectory then .error .isDirectory
            else if present.isDirectory && !store.isEmptyDirectory place then .error .notEmpty
            else .ok ((store.dropTree place).moveTree origin place)

end Groundwork.Store
