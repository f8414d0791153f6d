import Groundwork.Pattern.Named

namespace Groundwork

/-! Patterns: what a regular expression means once it is read. -/

namespace Pattern

/-- A place between two characters. -/
inductive Place where
  | textStart
  | textEnd
  | lineStart (carriageReturns : Bool)
  | lineEnd (carriageReturns : Bool)
  | wordBoundary (ascii : Bool)
  | notWordBoundary (ascii : Bool)
  | wordStart (ascii : Bool)
  | wordEnd (ascii : Bool)
  | wordStartHalf (ascii : Bool)
  | wordEndHalf (ascii : Bool)
  deriving DecidableEq, Repr

end Pattern

inductive Pattern where
  | empty
  | oneOf (set : Pattern.CharSet)
  | standing (place : Pattern.Place)
  | group (index : Nat) (inner : Pattern)
  | sequence (first second : Pattern)
  | choice (first second : Pattern)
  /-- At least `least` times, and at most `most` times if that is given. -/
  | repetition (inner : Pattern) (least : Nat) (most : Option Nat) (greedy : Bool)

namespace Pattern

def ofSequence : List Pattern → Pattern
  | [] => .empty
  | [pattern] => pattern
  | pattern :: rest => .sequence pattern (ofSequence rest)

def isLineFeed (letter : Option Char) : Bool :=
  letter == some '\n'

def isCarriageReturn (letter : Option Char) : Bool :=
  letter == some '\r'

def isWord (ascii : Bool) : Option Char → Bool
  | some letter => if ascii then Named.asciiWord.holds letter else Named.word.holds letter
  | none => false

/-- Whether a place lies between the letter before and the letter after. -/
def Place.holds (place : Place) (before after : Option Char) : Bool :=
  match place with
  | .textStart => before.isNone
  | .textEnd => after.isNone
  | .lineStart false => before.isNone || isLineFeed before
  | .lineStart true =>
      before.isNone || isLineFeed before || (isCarriageReturn before && !isLineFeed after)
  | .lineEnd false => after.isNone || isLineFeed after
  | .lineEnd true =>
      after.isNone || isCarriageReturn after || (isLineFeed after && !isCarriageReturn before)
  | .wordBoundary ascii => isWord ascii before != isWord ascii after
  | .notWordBoundary ascii => isWord ascii before == isWord ascii after
  | .wordStart ascii => !isWord ascii before && isWord ascii after
  | .wordEnd ascii => isWord ascii before && !isWord ascii after
  | .wordStartHalf ascii => !isWord ascii before
  | .wordEndHalf ascii => !isWord ascii after

/-- The fewest letters that a match takes. -/
def leastLength : Pattern → Nat
  | .empty | .standing _ => 0
  | .oneOf _ => 1
  | .group _ inner => inner.leastLength
  | .sequence first second => first.leastLength + second.leastLength
  | .choice first second => min first.leastLength second.leastLength
  | .repetition inner least _ _ => least * inner.leastLength

end Pattern

end Groundwork
