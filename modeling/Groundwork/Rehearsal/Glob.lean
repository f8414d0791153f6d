import Groundwork.Store.Walk

namespace Groundwork.Rehearsal

/-! File name patterns: `*`, `?` and bracketed sets.  A quoted letter only stands for itself. -/

structure Letter where
  value : Char
  quoted : Bool
  deriving DecidableEq, Repr

abbrev Field := List Letter

namespace Field

def text (field : Field) : String :=
  String.ofList (field.map Letter.value)

end Field

inductive Glob.Item where
  | exactly (letter : Char)
  | any
  | many
  | oneOf (negated : Bool) (ranges : List (Char × Char))
  deriving DecidableEq, Repr

namespace Glob

/-- The ranges of a bracketed set; a letter that ends the set is no member. -/
def ranges : List Char → List (Char × Char)
  | first :: '-' :: last :: rest => (first, last) :: ranges rest
  | letter :: rest => (letter, letter) :: ranges rest
  | [] => []

/-- The members of a set and how many letters it takes up; a bracket that closes at once is a
member. -/
def setAt? (letters : Field) : Option (Bool × List Char × Nat) :=
  let negated := match letters.head? with
    | some ⟨letter, false⟩ => letter == '!' || letter == '^'
    | _ => false
  let rest := if negated then letters.drop 1 else letters
  let first := rest.take 1
  let others := (rest.drop 1).takeWhile (· ≠ ⟨']', false⟩)
  if rest.isEmpty || others.length + 1 = rest.length then none
  else
    some (negated, (first ++ others).map Letter.value,
      (if negated then 1 else 0) + 1 + others.length + 1)

def itemsFrom : Nat → Field → List Item
  | _, [] => []
  | skip + 1, _ :: rest => itemsFrom skip rest
  | 0, ⟨letter, quoted⟩ :: rest =>
      if quoted then .exactly letter :: itemsFrom 0 rest
      else
        match letter with
        | '*' => .many :: itemsFrom 0 rest
        | '?' => .any :: itemsFrom 0 rest
        | '[' =>
            match setAt? rest with
            | some (negated, members, count) => .oneOf negated (ranges members) :: itemsFrom count rest
            | none => .exactly '[' :: itemsFrom 0 rest
        | _ => .exactly letter :: itemsFrom 0 rest

def items (field : Field) : List Item := itemsFrom 0 field

/-- Whether a field holds anything but letters that stand for themselves. -/
def isPattern (field : Field) : Bool :=
  (items field).any fun
    | .exactly _ => false
    | _ => true

def suffixes : List Char → List (List Char)
  | [] => [[]]
  | letter :: rest => (letter :: rest) :: suffixes rest

def covers : List Item → List Char → Bool
  | [], letters => letters.isEmpty
  | .many :: rest, letters => (suffixes letters).any (covers rest)
  | .exactly _ :: _, [] | .any :: _, [] | .oneOf .. :: _, [] => false
  | .exactly wanted :: rest, letter :: letters => wanted == letter && covers rest letters
  | .any :: rest, _ :: letters => covers rest letters
  | .oneOf negated ranges :: rest, letter :: letters =>
      (ranges.any (fun (first, last) => first ≤ letter && letter ≤ last) != negated) &&
        covers rest letters

/-- The names in a directory that a pattern covers; hidden ones only when the pattern says so. -/
def namesIn (store : Store) (directory : String) (field : Field) : List String :=
  match store.entryAt true (if directory.isEmpty then "." else directory) with
  | .ok (place, .directory _) =>
      let hidden := field.head?.map Letter.value = some '.'
      let names := ("." :: ".." :: (store.children place).map Prod.fst).filter fun name =>
        covers (items field) name.toList && (hidden || name.toList.head? ≠ some '.')
      names.mergeSort (· ≤ ·)
  | _ => []

def splitField : Field → List Field
  | [] => [[]]
  | letter :: rest =>
      match splitField rest with
      | [] => [[letter]]
      | part :: parts => if letter.value == '/' then [] :: part :: parts else (letter :: part) :: parts

/-- The paths that the parts of a pattern cover, behind paths found for the parts before. -/
def pathsFrom (store : Store) : List Field → List String → List String
  | [], found => found.filter fun path =>
      match store.entryAt false path with
      | .ok _ => true
      | .error _ => false
  | part :: rest, found =>
      let slash := if rest.isEmpty then "" else "/"
      if isPattern part then
        pathsFrom store rest (found.flatMap fun path =>
          (namesIn store path part).map fun name => path ++ name ++ slash)
      else pathsFrom store rest (found.map fun path => path ++ Field.text part ++ slash)

/-- The paths that a field covers, or its own text when it covers none. -/
def expand (store : Store) (field : Field) : List String :=
  if isPattern field then
    match pathsFrom store (splitField field) [""] with
    | [] => [Field.text field]
    | paths => paths
  else [Field.text field]

end Glob

end Groundwork.Rehearsal
