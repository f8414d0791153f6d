import Groundwork.Toml.Scalar

namespace Groundwork.Toml

/-! TOML documents.

A document is read into a draft, which still knows how each of its tables came to be: by a header of
its own, on the way of a longer header, or by a dotted key.  That decides what may be added to it
later.  Tables keep the order in which their keys came.
-/

/-- A table made on the way is implicit; one made by a dotted key is dotted as well. -/
inductive Draft where
  | leaf (value : Value)
  | table (implicit : Bool) (dotted : Bool) (entries : List (String × Draft))
  | tables (elements : List (List (String × Draft)))
  deriving Inhabited

namespace Draft

abbrev Entries := List (String × Draft)

def lookup (key : String) (entries : Entries) : Option Draft :=
  Table.get? key entries

def replace (key : String) (draft : Draft) (entries : Entries) : Entries :=
  entries.map fun entry => if entry.1 = key then (key, draft) else entry

def add (key : String) (draft : Draft) (entries : Entries) : Entries :=
  entries ++ [(key, draft)]

/-- Goes down a path of keys, making the tables that are missing, and edits the table it reaches.
The edit is told whether that table is dotted.  Of an array of tables the last one is entered.  A
dotted key enters only tables that no header has made. -/
def edit {ρ : Type} (byKey : Bool) (change : Bool → Entries → Option (Entries × ρ)) :
    List String → Bool → Entries → Option (Entries × ρ)
  | [], dotted, entries => change dotted entries
  | key :: path, _, entries =>
      match lookup key entries with
      | none =>
          match edit byKey change path byKey [] with
          | some (inner, result) => some (add key (.table true byKey inner) entries, result)
          | none => none
      | some (.table implicit dotted inner) =>
          if byKey && !implicit then none
          else
            match edit byKey change path dotted inner with
            | some (inner, result) => some (replace key (.table implicit dotted inner) entries, result)
            | none => none
      | some (.tables elements) =>
          match elements.getLast? with
          | none => none
          | some last =>
              match edit byKey change path false last with
              | some (last, result) =>
                  some (replace key (.tables (elements.dropLast ++ [last])) entries, result)
              | none => none
      | some (.leaf _) => none

/-- Puts a value under a key that is still free. -/
def put (pathEmpty : Bool) (key : String) (value : Value) (dotted : Bool) (entries : Entries) :
    Option (Entries × Unit) :=
  if dotted == pathEmpty || (lookup key entries).isSome then none
  else some (add key (.leaf value) entries, ())

/-- Adds a value under a dotted key. -/
def assign (key : List String) (value : Value) (entries : Entries) : Option Entries :=
  match key.getLast? with
  | none => none
  | some last =>
      let path := key.dropLast
      (edit true (put path.isEmpty last value) path false entries).map Prod.fst

mutual

def toValue : Draft → Value
  | .leaf value => value
  | .table _ _ entries => .table (toEntries entries)
  | .tables elements => .array (toTables elements)

def toEntries : List (String × Draft) → List (String × Value)
  | [] => []
  | (key, draft) :: rest => (key, draft.toValue) :: toEntries rest

def toTables : List (List (String × Draft)) → List Value
  | [] => []
  | entries :: rest => .table (toEntries entries) :: toTables rest

end

end Draft

mutual

/-- `depth` counts the arrays and inline tables around this value. -/
def readValue : Nat → Nat → List Char → Option (Value × List Char)
  | 0, _, _ => none
  | fuel + 1, depth, letters =>
      match letters with
      | [] => none
      | '[' :: rest =>
          if depth + 1 < depthLimit then
            (readItems fuel (depth + 1) rest).map fun (items, rest) => (.array items, rest)
          else none
      | '{' :: rest =>
          if depth + 1 < depthLimit then
            match skipSpace rest with
            | '}' :: rest => some (.table [], rest)
            | rest =>
                (readInline fuel (depth + 1) [] rest).map fun (entries, rest) =>
                  (.table (Draft.toEntries entries), rest)
          else none
      | 't' :: 'r' :: 'u' :: 'e' :: rest => some (.bool true, rest)
      | 'f' :: 'a' :: 'l' :: 's' :: 'e' :: rest => some (.bool false, rest)
      | letter :: _ =>
          if letter == '"' || letter == '\'' then
            (readString letters).map fun (text, rest) => (.string text, rest)
          else readNumeric letters

/-- The items of an array up to its bracket; a comma may follow the last one. -/
def readItems : Nat → Nat → List Char → Option (List Value × List Char)
  | 0, _, _ => none
  | fuel + 1, depth, letters =>
      match skipLines (letters.length + 1) letters with
      | ']' :: rest => some ([], rest)
      | start =>
          match readValue fuel depth start with
          | none => none
          | some (item, rest) =>
              match skipLines (rest.length + 1) rest with
              | ',' :: rest => (readItems fuel depth rest).map fun (items, rest) => (item :: items, rest)
              | ']' :: rest => some ([item], rest)
              | _ => none

/-- The entries of an inline table up to its brace, added to those before. -/
def readInline : Nat → Nat → Draft.Entries → List Char → Option (Draft.Entries × List Char)
  | 0, _, _, _ => none
  | fuel + 1, depth, entries, letters =>
      match readKey letters with
      | some (key, '=' :: rest) =>
          match readValue fuel depth (skipSpace rest) with
          | none => none
          | some (value, rest) =>
              match Draft.assign key value entries with
              | none => none
              | some entries =>
                  match skipSpace rest with
                  | ',' :: rest => readInline fuel depth entries rest
                  | '}' :: rest => some (entries, rest)
                  | _ => none
      | _ => none

end

/-- The tables finished so far, and the one that lines are being added to. -/
structure Progress where
  root : Draft.Entries
  current : Draft.Entries
  /-- The header of the current table; empty before the first header. -/
  path : List String
  isElement : Bool

namespace Progress

def start : Progress := ⟨[], [], [], false⟩

def addElement (key : String) (element : Draft.Entries) (_ : Bool) (entries : Draft.Entries) :
    Option (Draft.Entries × Unit) :=
  match Draft.lookup key entries with
  | none => some (Draft.add key (.tables [element]) entries, ())
  | some (.tables elements) => some (Draft.replace key (.tables (elements ++ [element])) entries, ())
  | some _ => none

def addTable (key : String) (table : Draft.Entries) (_ : Bool) (entries : Draft.Entries) :
    Option (Draft.Entries × Unit) :=
  match Draft.lookup key entries with
  | none => some (Draft.add key (.table false false table) entries, ())
  | some _ => none

/-- Puts the current table where its header says. -/
def finish (progress : Progress) : Option Draft.Entries :=
  match progress.path.getLast? with
  | none => some progress.current
  | some key =>
      let change := if progress.isElement then addElement key progress.current
        else addTable key progress.current
      (Draft.edit false change progress.path.dropLast false progress.root).map Prod.fst

/-- An element may join an array of tables that headers have made. -/
def openElement (key : String) (_ : Bool) (entries : Draft.Entries) :
    Option (Draft.Entries × Draft.Entries) :=
  match Draft.lookup key entries with
  | none => some (Draft.add key (.tables []) entries, [])
  | some (.tables _) => some (entries, [])
  | some _ => none

/-- A header may take over a table that was made on the way of another header. -/
def openTable (key : String) (_ : Bool) (entries : Draft.Entries) :
    Option (Draft.Entries × Draft.Entries) :=
  match Draft.lookup key entries with
  | none => some (entries, [])
  | some (.table true false inner) => some (Table.erase key entries, inner)
  | some _ => none

def openHeader (isElement : Bool) (path : List String) (progress : Progress) : Option Progress :=
  match path.getLast?, progress.finish with
  | some key, some root =>
      let change := if isElement then openElement key else openTable key
      match Draft.edit false change path.dropLast false root with
      | some (root, current) => some ⟨root, current, path, isElement⟩
      | none => none
  | _, _ => none

end Progress

/-- The header after its first bracket. -/
def readHeader (letters : List Char) : Option ((Bool × List String) × List Char) :=
  match letters with
  | '[' :: rest =>
      match readKey rest with
      | some (path, ']' :: ']' :: rest) => some ((true, path), rest)
      | _ => none
  | _ =>
      match readKey letters with
      | some (path, ']' :: rest) => some ((false, path), rest)
      | _ => none

/-- One line, or the lines that one value fills. -/
def readLine (progress : Progress) (letters : List Char) : Option (Progress × List Char) :=
  match skipSpace letters with
  | '[' :: rest =>
      match readHeader rest with
      | some ((isElement, path), rest) =>
          match finishLine rest, progress.openHeader isElement path with
          | some rest, some progress => some (progress, rest)
          | _, _ => none
      | none => none
  | start =>
      match finishLine start with
      | some rest => some (progress, rest)
      | none =>
          match readKey start with
          | some (key, '=' :: rest) =>
              match readValue (2 * rest.length + 2) 0 (skipSpace rest) with
              | none => none
              | some (value, rest) =>
                  match finishLine rest, Draft.assign key value progress.current with
                  | some rest, some current => some (⟨progress.root, current, progress.path, progress.isElement⟩, rest)
                  | _, _ => none
          | _ => none

def readLines : Nat → Progress → List Char → Option Progress
  | _, progress, [] => some progress
  | 0, _, _ => none
  | fuel + 1, progress, letters =>
      match readLine progress letters with
      | some (progress, rest) => readLines fuel progress rest
      | none => none

def byteOrderMark : Char := Char.ofNat 0xfeff

/-- The table that a document holds. -/
def read (text : String) : Option (List (String × Value)) :=
  let letters :=
    match text.toList with
    | letter :: rest => if letter = byteOrderMark then rest else letter :: rest
    | [] => []
  match readLines (letters.length + 1) .start letters with
  | some progress => progress.finish.map Draft.toEntries
  | none => none

end Groundwork.Toml
