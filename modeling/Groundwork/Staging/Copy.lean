import Groundwork.Store.Directories

namespace Groundwork.Staging

/-! Copying a directory of templates to a place where nothing is yet.

The copy grows in a directory of its own beside the destination and is moved into place at the end, so
the destination only ever appears complete.  A copy that fails leaves nothing behind but the
directories on the way to the destination.
-/

/-- What a copied entry becomes: directories and plain files stay what they are, and a link becomes
a copy of the file that it leads to.  A link is looked up from the start of the template's path, where
the links on the way to the template count too. -/
def copied (store : Store) (source : String) (part : Location) : Entry → Except IoCause Entry
  | .directory _ => .ok (.directory Store.directoryMode)
  | .file bytes mode => .ok (.file bytes mode)
  | .link _ =>
      match store.follow true Store.linkLimit (store.startOf source) (Path.parts source ++ part) with
      | .error cause => .error cause
      | .ok (.vacant _) => .error .notFound
      | .ok (.taken _ (.file bytes mode)) => .ok (.file bytes mode)
      | .ok (.taken ..) => .error .notRegularSource
  | .sink => .error .notRegularSource

/-- Puts a copied entry into its place.  A directory that is there already stays, and nothing takes the
place of a directory. -/
def settle (store : Store) (place : Location) (copy : Entry) : Except IoCause Store :=
  match store.get? place with
  | none => .ok (store.put place copy)
  | some (.directory _) => if copy.isDirectory then .ok store else .error .isDirectory
  | some _ => if copy.isDirectory then .error .alreadyExists else .ok (store.put place copy)

/-- A copy that grows: the template and the copy, each by its path and by its location, and the store
in which the copy began.  Links lead to what they led to then. -/
structure Copying where
  source : String
  origin : Location
  path : String
  growing : Location
  before : Store

/-- How far a copy has come, and the parts of the template that it has come to on the way. -/
structure Growth where
  store : Store
  visited : List Location

namespace Copying

variable (copying : Copying)

def pathBelow (top : String) (part : Location) : String :=
  Path.join top ("/".intercalate part)

def allow (path : String) : Except IoCause Unit :=
  match Store.refusedPath path with
  | some cause => .error cause
  | none => .ok ()

def notWalked (path : String) (cause : IoCause) : Failure :=
  .walk ("IO error for operation on " ++ path ++ ": " ++ cause.message)

/-- Copies one part of the template.  A directory is opened at once, to be walked next. -/
def copyPart (part : Location) (entry : Entry) (store : Store) : Except Failure Store :=
  let source := pathBelow copying.source part
  let target := pathBelow copying.path part
  let place := copying.growing ++ part
  if entry.isDirectory then do
    let made ← (do allow target; settle store place (.directory Store.directoryMode)).mapError .io
    (allow source).mapError (notWalked source)
    return made
  else
    Except.mapError .io do
      allow source
      let copy ← copied copying.before copying.source part entry
      allow target
      settle store place copy

def visit (part : Location) (entry : Entry) : Act Growth Unit := fun growth =>
  match copying.copyPart part entry growth.store with
  | .ok store => ⟨.ok (), ⟨store, growth.visited ++ [part]⟩, []⟩
  | .error failure => ⟨.error failure, ⟨growth.store, growth.visited ++ [part]⟩, []⟩

/-- Copies all that lies below a part of the template, down to a depth.  A directory is listed when the
walk comes to it, and so with all that was copied into it before. -/
def walk : Nat → Location → Act Growth Unit
  | 0, _ => .done ()
  | depth + 1, part => do
      let children ← Act.read fun growth => growth.store.children (copying.origin ++ part)
      children.forM fun child => do
        copying.visit (part ++ [child.1]) child.2
        if child.2.isDirectory then walk depth (part ++ [child.1])

end Copying

def growingMark : String := ".bminfra-copy-"

/-- Only its owner may look into a growing copy. -/
def growingMode : Nat := 0o700

def growingName (number : Nat) : String :=
  let digits := Nat.repr number
  growingMark ++ String.ofList (List.replicate (6 - digits.length) '0') ++ digits

def isFree (store : Store) (place : Location) : Bool :=
  !store.entries.any (fun entry => Store.isWithin entry.1 place)

/-- A name that nothing in the directory has.  A directory has no more names in use than the store
has entries. -/
def freeName (store : Store) (directory : Location) : String :=
  let free (number : Nat) : Bool := isFree store (directory ++ [growingName number])
  growingName (((List.range (store.entries.length + 1)).find? free).getD 0)

def directoryOf (destination : String) : String :=
  (Path.directory? destination).getD "."

namespace Copying

/-- A copy of `source` that is to grow beside the destination. -/
def prepare (source destination : String) (store : Store) : Except IoCause Copying :=
  let beside := Path.join (Store.pathOf store.current) (directoryOf destination)
  match store.entryAt true source, store.entryAt true beside with
  | .error cause, _ | _, .error cause => .error cause
  | .ok (origin, _), .ok (directory, .directory _) =>
      let name := freeName store directory
      .ok ⟨source, origin, Path.join beside name, directory ++ [name], store⟩
  | .ok _, .ok _ => .error .notDirectory

def begun (copying : Copying) : Store :=
  copying.before.put copying.growing (.directory growingMode)

/-- The walk ends: what lies deeper has a path that no system takes. -/
def copyTree (copying : Copying) : Act.Result Growth Unit :=
  copying.walk (Store.pathLimit + 1) [] ⟨copying.begun, []⟩

end Copying

/-- Lets a copy of `source` grow beside the destination and moves it into place.  A copy that cannot be
finished or moved is taken away again. -/
def grow (source destination : String) : Act Store Unit := fun store =>
  match Copying.prepare source destination store with
  | .error cause => ⟨.error (.io cause), store, []⟩
  | .ok copying =>
      let note : Note :=
        .logged .debug ("Copying " ++ source ++ " -> " ++ destination ++ " via " ++ copying.path)
      let tree := copying.copyTree
      match tree.value with
      | .error failure => ⟨.error failure, tree.state.store.dropTree copying.growing, [note]⟩
      | .ok () =>
          match tree.state.store.rename copying.path destination with
          | .error cause => ⟨.error (.io cause), tree.state.store.dropTree copying.growing, [note]⟩
          | .ok moved => ⟨.ok (), moved, [note]⟩

/-- Copies a directory unless the destination is already there, and tells whether it did. -/
def copyIfAbsent (source destination : String) : Act Store Bool := do
  if ← Act.read (Store.isPresent · destination) then
    Act.log .info (destination ++ " already exists, not copying")
    return false
  if !(← Act.read (Store.isDirectory · source)) then
    throw (.validation ("Template directory not found: " ++ source))
  Store.makeDirectories (directoryOf destination)
  grow source destination
  return true

end Groundwork.Staging
