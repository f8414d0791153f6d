namespace Groundwork

/-! Files, directories and links, kept in memory.

A store is a list of entries, one a location.  The root is a directory that is always there and needs
no entry.
-/

/-- The names from the root down to a place; the root has none. -/
abbrev Location := List String

inductive Entry where
  | file (bytes : ByteArray) (mode : Nat)
  | directory (mode : Nat)
  | link (target : String)
  /-- Takes whatever is written to it and holds nothing. -/
  | sink

namespace Entry

/-- Entries are told apart by their kind and by what they hold. -/
instance : DecidableEq Entry
  | .file bytes mode, .file other otherMode =>
      decidable_of_iff (bytes.data = other.data ∧ mode = otherMode) (by
        cases bytes
        cases other
        simp)
  | .directory mode, .directory other => decidable_of_iff (mode = other) (by simp)
  | .link target, .link other => decidable_of_iff (target = other) (by simp)
  | .sink, .sink => isTrue rfl
  | .file .., .directory _ | .file .., .link _ | .file .., .sink => isFalse (by simp)
  | .directory _, .file .. | .directory _, .link _ | .directory _, .sink => isFalse (by simp)
  | .link _, .file .. | .link _, .directory _ | .link _, .sink => isFalse (by simp)
  | .sink, .file .. | .sink, .directory _ | .sink, .link _ => isFalse (by simp)

def isFile : Entry → Bool
  | .file .. => true
  | _ => false

def isDirectory : Entry → Bool
  | .directory _ => true
  | _ => false

def isLink : Entry → Bool
  | .link _ => true
  | _ => false

/-- Links have no permissions of their own. -/
def mode : Entry → Nat
  | .file _ mode | .directory mode => mode
  | .link _ => 0o777
  | .sink => 0o666

def withMode (mode : Nat) : Entry → Entry
  | .file bytes _ => .file bytes mode
  | .directory _ => .directory mode
  | .link target => .link target
  | .sink => .sink

/-- Whether anyone may execute it. -/
def isExecutable (entry : Entry) : Bool :=
  entry.mode &&& 0o111 != 0

end Entry

structure Store where
  entries : List (Location × Entry)
  /-- Where relative paths start. -/
  current : Location

namespace Store

def fileMode : Nat := 0o644

def directoryMode : Nat := 0o755

def empty : Store := ⟨[], []⟩

instance : Inhabited Store := ⟨empty⟩

def find? (place : Location) : List (Location × Entry) → Option Entry
  | [] => none
  | (other, entry) :: rest => if place = other then some entry else find? place rest

def get? (store : Store) (place : Location) : Option Entry :=
  if place = [] then some (.directory directoryMode) else find? place store.entries

/-- An entry that is there already keeps its place in the list. -/
def putIn (place : Location) (entry : Entry) : List (Location × Entry) → List (Location × Entry)
  | [] => [(place, entry)]
  | (other, previous) :: rest =>
      if place = other then (place, entry) :: rest else (other, previous) :: putIn place entry rest

def put (store : Store) (place : Location) (entry : Entry) : Store :=
  { store with entries := putIn place entry store.entries }

/-- Whether a location is another one or lies below it. -/
def isWithin (place top : Location) : Bool :=
  top.isPrefixOf place

def dropTree (store : Store) (top : Location) : Store :=
  { store with entries := store.entries.filter (fun (place, _) => !isWithin place top) }

/-- Takes away all that lies below a location. -/
def dropContent (store : Store) (top : Location) : Store :=
  { store with entries := store.entries.filter (fun (place, _) => place == top || !isWithin place top) }

/-- The entries below a location, with their locations as seen from there. -/
def below (store : Store) (top : Location) : List (Location × Entry) :=
  store.entries.filterMap fun (place, entry) =>
    if isWithin place top && place != top then some (place.drop top.length, entry) else none

def children (store : Store) (directory : Location) : List (String × Entry) :=
  (store.below directory).filterMap fun
    | ([name], entry) => some (name, entry)
    | _ => none

/-- Gives a location and all that lies below it another name. -/
def moveTree (store : Store) (source destination : Location) : Store :=
  { store with entries := store.entries.map fun (place, entry) =>
      if isWithin place source then (destination ++ place.drop source.length, entry) else (place, entry) }

def pathOf (place : Location) : String :=
  "/" ++ "/".intercalate place

theorem find?_putIn (place other : Location) (entry : Entry) (entries : List (Location × Entry)) :
    find? other (putIn place entry entries) =
      if other = place then some entry else find? other entries := by
  induction entries with
  | nil => simp [putIn, find?]
  | cons first rest ih =>
      obtain ⟨present, previous⟩ := first
      unfold putIn
      split
      · next same => subst same; by_cases found : other = place <;> simp [find?, found]
      · simp only [find?, ih]
        by_cases here : other = present
        · subst here
          have different : other ≠ place := fun same => by simp_all
          simp [different]
        · simp [here]

theorem get?_put (store : Store) (place other : Location) (entry : Entry) (inside : place ≠ []) :
    (store.put place entry).get? other = if other = place then some entry else store.get? other := by
  unfold get? put
  by_cases root : other = []
  · subst root
    simp [Ne.symm inside]
  · simp [root, find?_putIn]

theorem get?_put_self (store : Store) (place : Location) (entry : Entry) (inside : place ≠ []) :
    (store.put place entry).get? place = some entry := by
  simp [get?_put store place place entry inside]

theorem putIn_putIn (place : Location) (first second : Entry) (entries : List (Location × Entry)) :
    putIn place second (putIn place first entries) = putIn place second entries := by
  induction entries with
  | nil => simp [putIn]
  | cons entry rest ih =>
      obtain ⟨present, previous⟩ := entry
      by_cases same : place = present
      · simp [putIn, same]
      · simp [putIn, same, ih]

theorem put_put (store : Store) (place : Location) (first second : Entry) :
    (store.put place first).put place second = store.put place second := by
  simp [put, putIn_putIn]

end Store

end Groundwork
