namespace Groundwork.Text

/-! Splitting a text at its line feeds.

A line loses its line feed and one carriage return before it.  The text after the last line feed
is a line of its own unless it is empty, and keeps a final carriage return.
-/

def dropCarriageReturn (line : List Char) : List Char :=
  match line.reverse with
  | '\r' :: shorter => shorter.reverse
  | _ => line

/-- `pending` is the line read so far, last letter first. -/
def linesFrom (pending : List Char) : List Char → List (List Char)
  | [] => if pending.isEmpty then [] else [pending.reverse]
  | '\n' :: rest => dropCarriageReturn pending.reverse :: linesFrom [] rest
  | letter :: rest => linesFrom (letter :: pending) rest

def lines (text : String) : List String :=
  (linesFrom [] text.toList).map String.ofList

/-- Splits at every separator; the empty text has one empty part. -/
def splitLetters (separator : Char) : List Char → List (List Char)
  | [] => [[]]
  | letter :: rest =>
      match splitLetters separator rest with
      | [] => [[letter]]
      | part :: parts =>
          if letter == separator then [] :: part :: parts else (letter :: part) :: parts

def split (separator : Char) (text : String) : List String :=
  (splitLetters separator text.toList).map String.ofList

theorem splitLetters_ne_nil (separator : Char) (letters : List Char) :
    splitLetters separator letters ≠ [] := by
  cases letters with
  | nil => simp [splitLetters]
  | cons letter rest =>
      unfold splitLetters
      split
      · simp
      · split <;> simp

end Groundwork.Text
