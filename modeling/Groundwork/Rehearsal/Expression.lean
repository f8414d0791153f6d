import Groundwork.Rehearsal.Glob

namespace Groundwork.Rehearsal

/-! Regular expressions of the text tools, in their basic and their extended spelling.

Matching tries one way after the other, longer repetitions first.
-/

inductive Expression where
  | exactly (value : Char)
  | any
  | oneOf (negated : Bool) (ranges : List (Char × Char))
  | atStart
  | atEnd
  | group (number : Nat) (choices : List (List Expression))
  | closing (number : Nat) (start : Nat)
  | again (number : Nat)
  | repeated (inner : Expression) (least : Nat) (most : Option Nat)
  deriving Inhabited

namespace Expression

def classRanges (name : String) : List (Char × Char) :=
  match name with
  | "alpha" => [('a', 'z'), ('A', 'Z')]
  | "digit" => [('0', '9')]
  | "alnum" => [('a', 'z'), ('A', 'Z'), ('0', '9')]
  | "upper" => [('A', 'Z')]
  | "lower" => [('a', 'z')]
  | "space" => [(' ', ' '), ('\t', '\r')]
  | "blank" => [(' ', ' '), ('\t', '\t')]
  | "punct" => [('!', '/'), (':', '@'), ('[', '`'), ('{', '~')]
  | "xdigit" => [('0', '9'), ('a', 'f'), ('A', 'F')]
  | _ => []

/-- The members of a bracketed set, and what stands behind it. -/
def readSet : Nat → Bool → List Char → List (Char × Char) → Option (List (Char × Char) × List Char)
  | 0, _, _, _ => none
  | _, _, [], _ => none
  | fuel + 1, _, '[' :: ':' :: rest, found =>
      let name := rest.takeWhile (· != ':')
      readSet fuel false (rest.drop (name.length + 2)) (classRanges (String.ofList name) ++ found)
  | fuel + 1, isFirst, letter :: rest, found =>
      if letter == ']' && !isFirst then some (found, rest)
      else
        match rest with
        | '-' :: last :: more =>
            if last == ']' then readSet fuel false rest ((letter, letter) :: found)
            else readSet fuel false more ((letter, last) :: found)
        | _ => readSet fuel false rest ((letter, letter) :: found)

def digitsAt (letters : List Char) : List Char :=
  letters.takeWhile Char.isDigit

def numberOf (digits : List Char) : Nat :=
  digits.foldl (fun value digit => 10 * value + (digit.toNat - '0'.toNat)) 0

/-- The bounds of a repetition between braces, and how many letters they take up. -/
def boundsAt? (letters : List Char) : Option (Nat × Option Nat × Nat) :=
  let low := digitsAt letters
  match letters.drop low.length with
  | ',' :: rest =>
      let high := digitsAt rest
      let most := if high.isEmpty then none else some (numberOf high)
      some (numberOf low, most, low.length + 1 + high.length)
  | _ => if low.isEmpty then none else some (numberOf low, some (numberOf low), low.length)

/-- What has been read so far: finished choices, the choice under way (last part first), the groups
that are open, and the number of the next group. -/
structure Reading where
  done : List (List Expression)
  current : List Expression
  outer : List (Nat × List (List Expression) × List Expression)
  next : Nat

def Reading.push (reading : Reading) (expression : Expression) : Reading :=
  { reading with current := expression :: reading.current }

def Reading.repeatLast (reading : Reading) (least : Nat) (most : Option Nat) : Reading :=
  match reading.current with
  | last :: rest => { reading with current := .repeated last least most :: rest }
  | [] => reading.push (.exactly '*')

def Reading.open (reading : Reading) : Reading :=
  { done := [], current := []
    outer := (reading.next, reading.done, reading.current) :: reading.outer
    next := reading.next + 1 }

def Reading.choices (reading : Reading) : List (List Expression) :=
  reading.done ++ [reading.current.reverse]

def Reading.close? (reading : Reading) : Option Reading :=
  match reading.outer with
  | [] => none
  | (number, done, current) :: outer =>
      some { done, current := .group number reading.choices :: current, outer, next := reading.next }

def Reading.alternative (reading : Reading) : Reading :=
  { reading with done := reading.choices, current := [] }

/-- Reads an expression.  In the basic spelling the special letters other than `*`, `.` and the
anchors need a backslash; in the extended one a backslash takes their meaning away. -/
def readFrom (extended : Bool) : Nat → List Char → Reading → Option Reading
  | 0, _, _ => none
  | _, [], reading => some reading
  | fuel + 1, '\\' :: letter :: rest, reading =>
      let special (act : Option Reading) : Option Reading :=
        if extended then readFrom extended fuel rest (reading.push (.exactly letter))
        else act
      match letter with
      | '(' => special (readFrom extended fuel rest reading.open)
      | ')' => special (reading.close?.bind (readFrom extended fuel rest))
      | '|' => special (readFrom extended fuel rest reading.alternative)
      | '+' => special (readFrom extended fuel rest (reading.repeatLast 1 none))
      | '?' => special (readFrom extended fuel rest (reading.repeatLast 0 (some 1)))
      | '{' => special (
          match boundsAt? rest with
          | none => none
          | some (least, most, count) =>
              readFrom extended fuel (rest.drop (count + 2)) (reading.repeatLast least most))
      | 'n' => readFrom extended fuel rest (reading.push (.exactly '\n'))
      | 't' => readFrom extended fuel rest (reading.push (.exactly '\t'))
      | 's' => readFrom extended fuel rest (reading.push (.oneOf false (classRanges "space")))
      | 'w' => readFrom extended fuel rest (reading.push (.oneOf false (('_', '_') :: classRanges "alnum")))
      | _ =>
          if letter.isDigit then
            readFrom extended fuel rest (reading.push (.again (letter.toNat - '0'.toNat)))
          else readFrom extended fuel rest (reading.push (.exactly letter))
  | fuel + 1, letter :: rest, reading =>
      let plain := readFrom extended fuel rest (reading.push (.exactly letter))
      match letter with
      | '.' => readFrom extended fuel rest (reading.push .any)
      | '*' => readFrom extended fuel rest (reading.repeatLast 0 none)
      | '^' =>
          if extended || reading.current.isEmpty then readFrom extended fuel rest (reading.push .atStart)
          else plain
      | '$' =>
          let last := rest.isEmpty || rest.take 2 = ['\\', ')'] || rest.take 2 = ['\\', '|']
          if extended || last then readFrom extended fuel rest (reading.push .atEnd) else plain
      | '[' =>
          let negated := rest.head? = some '^'
          match readSet (rest.length + 1) true (if negated then rest.drop 1 else rest) [] with
          | none => none
          | some (ranges, more) => readFrom extended fuel more (reading.push (.oneOf negated ranges))
      | '(' => if extended then readFrom extended fuel rest reading.open else plain
      | ')' => if extended then reading.close?.bind (readFrom extended fuel rest) else plain
      | '|' => if extended then readFrom extended fuel rest reading.alternative else plain
      | '+' => if extended then readFrom extended fuel rest (reading.repeatLast 1 none) else plain
      | '?' => if extended then readFrom extended fuel rest (reading.repeatLast 0 (some 1)) else plain
      | '{' =>
          match extended, boundsAt? rest with
          | true, some (least, most, count) =>
              readFrom extended fuel (rest.drop (count + 1)) (reading.repeatLast least most)
          | _, _ => plain
      | _ => plain

def read (extended : Bool) (text : String) : Option Expression :=
  match readFrom extended (text.length + 1) text.toList ⟨[], [], [], 1⟩ with
  | some reading => if reading.outer.isEmpty then some (.group 0 reading.choices) else none
  | none => none

abbrev Groups := List (Nat × Nat × Nat)

def spanOf (groups : Groups) (number : Nat) : Option (Nat × Nat) :=
  groups.lookup number

def slice (text : List Char) (span : Nat × Nat) : List Char :=
  (text.drop span.1).take (span.2 - span.1)

def sameLetter (folded : Bool) (letter other : Char) : Bool :=
  if folded then letter.toLower == other.toLower else letter == other

/-- Matches expressions one after another at a position; gives the groups. -/
def matchFrom (folded : Bool) (text : List Char) :
    Nat → List Expression → Nat → List Char → Groups → Option Groups
  | 0, _, _, _, _ => none
  | _, [], _, _, groups => some groups
  | fuel + 1, expression :: more, index, letters, groups =>
      let take (holds : Char → Bool) : Option Groups :=
        match letters with
        | letter :: rest =>
            if holds letter then matchFrom folded text fuel more (index + 1) rest groups else none
        | [] => none
      match expression with
      | .exactly value => take (sameLetter folded value)
      | .any => take (fun _ => true)
      | .oneOf negated ranges =>
          take fun letter =>
            (ranges.any (fun (first, last) =>
              (first ≤ letter && letter ≤ last) ||
                (folded && ((first ≤ letter.toLower && letter.toLower ≤ last) ||
                  (first ≤ letter.toUpper && letter.toUpper ≤ last))))) != negated
      | .atStart => if index = 0 then matchFrom folded text fuel more index letters groups else none
      | .atEnd => if letters.isEmpty then matchFrom folded text fuel more index letters groups else none
      | .group number choices =>
          choices.findSome? fun choice =>
            matchFrom folded text fuel (choice ++ .closing number index :: more) index letters groups
      | .closing number start =>
          matchFrom folded text fuel more index letters ((number, start, index) :: groups)
      | .again number =>
          let wanted := ((spanOf groups number).map (slice text)).getD []
          if wanted.isPrefixOf letters then
            matchFrom folded text fuel more (index + wanted.length) (letters.drop wanted.length) groups
          else none
      | .repeated inner least most =>
          let once :=
            if most = some 0 then none
            else if letters.isEmpty && least = 0 then none
            else
              matchFrom folded text fuel (inner :: .repeated inner (least - 1) (most.map (· - 1)) :: more)
                index letters groups
          match once with
          | some found => some found
          | none => if least = 0 then matchFrom folded text fuel more index letters groups else none

def findFrom (folded : Bool) (expression : Expression) (text : List Char) :
    Nat → List Char → Option Groups
  | index, letters =>
      match matchFrom folded text (20 * text.length + 200) [expression] index letters [] with
      | some groups => some groups
      | none =>
          match letters with
          | [] => none
          | _ :: rest => findFrom folded expression text (index + 1) rest

def isIn (folded : Bool) (expression : Expression) (text : List Char) : Bool :=
  (findFrom folded expression text 0 text).isSome

/-- The spans of the matches from a position on that are not empty, none of which overlaps another.
The first argument bounds how many are looked for. -/
def spansFrom (folded : Bool) (expression : Expression) (text : List Char) :
    Nat → Nat → List (Nat × Nat)
  | 0, _ => []
  | fuel + 1, index =>
      match (findFrom folded expression text index (text.drop index)).bind (spanOf · 0) with
      | none => []
      | some (start, finish) =>
          if start < finish then (start, finish) :: spansFrom folded expression text fuel finish
          else if finish < text.length then spansFrom folded expression text fuel (finish + 1)
          else []

end Expression

end Groundwork.Rehearsal
