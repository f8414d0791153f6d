import Groundwork.Text.Lines

namespace Groundwork.Text

/-! Sets of code points, written as ranges in hexadecimal.

`41-5a` is a range, `aa` a single code point, and `100-12e/2` every second one from the first on.
Entries stand between spaces or line ends.
-/

structure Ranges.Step where
  first : Nat
  last : Nat
  stride : Nat
  deriving DecidableEq, Repr

abbrev Ranges := List Ranges.Step

namespace Ranges

def Step.contains (step : Step) (code : Nat) : Bool :=
  step.first ≤ code && code ≤ step.last && (code - step.first) % step.stride == 0

def contains (ranges : Ranges) (code : Nat) : Bool :=
  ranges.any (·.contains code)

def hexDigit (letter : Char) : Nat :=
  if letter.isDigit then letter.toNat - '0'.toNat else letter.toNat - 'a'.toNat + 10

def hexNumber (digits : List Char) : Nat :=
  digits.foldl (fun value digit => 16 * value + hexDigit digit) 0

def readStep (letters : List Char) : Step :=
  let (range, stride) :=
    match splitLetters '/' letters with
    | [range, stride] => (range, hexNumber stride)
    | _ => (letters, 1)
  match splitLetters '-' range with
  | [first, last] => ⟨hexNumber first, hexNumber last, stride⟩
  | _ => ⟨hexNumber range, hexNumber range, stride⟩

def entries (text : String) : List (List Char) :=
  ((splitLetters '\n' text.toList).flatMap (splitLetters ' ')).filter (fun entry => !entry.isEmpty)

def read (text : String) : Ranges :=
  (entries text).map readStep

/-- Entries `range:target`, each with the code point that its range is sent to. -/
def readTargets (text : String) : List (Step × Nat) :=
  (entries text).map fun entry =>
    match splitLetters ':' entry with
    | [range, target] => (readStep range, hexNumber target)
    | _ => (readStep entry, 0)

end Ranges

end Groundwork.Text
