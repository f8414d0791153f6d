import Groundwork.Act
import Groundwork.Store.Walk
import Groundwork.Text.Utf8

namespace Groundwork

namespace Act

/-- A change of the store, which fails without changing it. -/
def change (operation : Store → Except IoCause Store) : Act Store Unit :=
  fun store =>
    match operation store with
    | .ok changed => ⟨.ok (), changed, []⟩
    | .error cause => ⟨.error (.io cause), store, []⟩

/-- A look at the store, which may fail. -/
def look (operation : Store → Except IoCause α) : Act Store α :=
  fun store =>
    match operation store with
    | .ok value => ⟨.ok value, store, []⟩
    | .error cause => ⟨.error (.io cause), store, []⟩

end Act

namespace Store

/-! Reading and writing single files.

Every path may pass through links.  Writing to a file keeps its permissions.
-/

/-- The path of the working directory, which can be gone. -/
def workDirectory (store : Store) : Except IoCause String :=
  match store.get? store.current with
  | some (.directory _) => .ok (pathOf store.current)
  | _ => .error .notFound

def readBytes (path : String) (store : Store) : Except IoCause ByteArray :=
  match store.entryAt true path with
  | .error cause => .error cause
  | .ok (_, .file bytes _) => .ok bytes
  | .ok (_, .sink) => .ok .empty
  | .ok (_, .directory _) => .error .isDirectory
  | .ok (_, .link _) => .error .linkLoop

def readText (path : String) (store : Store) : Except IoCause String :=
  match store.readBytes path with
  | .error cause => .error cause
  | .ok bytes =>
      match Text.Utf8.read? bytes with
      | some text => .ok text
      | none => .error .notText

/-- The spot of a path that a file may be made at.  A slash after the last name asks for a
directory, which no file can become. -/
def locateForWriting (path : String) (store : Store) : Except IoCause Spot :=
  match Path.endsInSlash path, lastName? path with
  | true, some _ =>
      match store.locateSteps true path ((Path.parts path).dropLast ++ ["."]) with
      | .error cause => .error cause
      | .ok _ => .error .isDirectory
  | _, _ => store.locate true path

/-- Replaces the bytes of a file by what `change` makes of them; a missing file is empty before. -/
def changeBytes (change : ByteArray → ByteArray) (mode : Nat) (path : String) (store : Store) :
    Except IoCause Store :=
  match store.locateForWriting path with
  | .error cause => .error cause
  | .ok (.vacant place) => .ok (store.put place (.file (change .empty) mode))
  | .ok (.taken place (.file bytes mode)) => .ok (store.put place (.file (change bytes) mode))
  | .ok (.taken _ .sink) => .ok store
  | .ok (.taken _ (.directory _)) => .error .isDirectory
  | .ok (.taken _ (.link _)) => .error .linkLoop

def writeBytes (bytes : ByteArray) (path : String) (store : Store) : Except IoCause Store :=
  store.changeBytes (fun _ => bytes) fileMode path

def writeText (text : String) (path : String) (store : Store) : Except IoCause Store :=
  store.writeBytes text.toUTF8 path

def appendBytes (bytes : ByteArray) (path : String) (store : Store) : Except IoCause Store :=
  store.changeBytes (· ++ bytes) fileMode path

def setMode (mode : Nat) (path : String) (store : Store) : Except IoCause Store :=
  match store.entryAt true path with
  | .error cause => .error cause
  | .ok (place, entry) => .ok (store.put place (entry.withMode mode))

/-- Makes a link; whatever is there already is in the way. -/
def makeLink (target path : String) (store : Store) : Except IoCause Store :=
  if target.isEmpty then .error .notFound
  else
    match store.locateName path with
    | .error cause => .error cause
    | .ok (.taken ..) => .error .alreadyExists
    | .ok (.vacant place) =>
        if Path.endsInSlash path then .error .notFound else .ok (store.put place (.link target))

/-- Takes away a file or a link, never a directory. -/
def removeFile (path : String) (store : Store) : Except IoCause Store :=
  match store.locateName path with
  | .error cause => .error cause
  | .ok (.vacant _) => .error .notFound
  | .ok (.taken _ (.directory _)) => .error .isDirectory
  | .ok (.taken place _) =>
      if Path.endsInSlash path then .error .notDirectory else .ok (store.dropTree place)

end Store

end Groundwork
