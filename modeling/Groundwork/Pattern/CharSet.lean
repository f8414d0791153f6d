import Groundwork.Text.CaseFold
import Groundwork.Text.Ranges

namespace Groundwork.Pattern

/-! Sets of characters, as ranges of code points in ascending order with gaps between them. -/

structure CharSet where
  ranges : List (Nat × Nat)
  deriving DecidableEq, Repr

namespace CharSet

def lastCode : Nat := 0x10ffff

def contains (set : CharSet) (code : Nat) : Bool :=
  set.ranges.any fun (low, high) => low ≤ code && code ≤ high

def holds (set : CharSet) (letter : Char) : Bool :=
  set.contains letter.toNat

/-- Joins ranges that touch; they must come in ascending order of their first codes. -/
def join : List (Nat × Nat) → List (Nat × Nat)
  | [] => []
  | (low, high) :: rest =>
      match join rest with
      | [] => [(low, high)]
      | (next, last) :: others =>
          if next ≤ high + 1 then (low, max high last) :: others
          else (low, high) :: (next, last) :: others

def ofRanges (ranges : List (Nat × Nat)) : CharSet :=
  ⟨join (ranges.mergeSort (fun first second => first.1 ≤ second.1))⟩

def empty : CharSet := ⟨[]⟩

def full : CharSet := ⟨[(0, lastCode)]⟩

def range (low high : Nat) : CharSet := ⟨[(low, high)]⟩

def single (letter : Char) : CharSet := range letter.toNat letter.toNat

def union (set other : CharSet) : CharSet :=
  ofRanges (set.ranges ++ other.ranges)

def unionAll (sets : List CharSet) : CharSet :=
  ofRanges (sets.flatMap CharSet.ranges)

/-- The gaps from `start` on. -/
def gaps (start : Nat) : List (Nat × Nat) → List (Nat × Nat)
  | [] => if start ≤ lastCode then [(start, lastCode)] else []
  | (low, high) :: rest =>
      if start < low then (start, low - 1) :: gaps (high + 1) rest else gaps (high + 1) rest

def complement (set : CharSet) : CharSet :=
  ⟨gaps 0 set.ranges⟩

def intersection (set other : CharSet) : CharSet :=
  (set.complement.union other.complement).complement

def difference (set other : CharSet) : CharSet :=
  set.intersection other.complement

def symmetricDifference (set other : CharSet) : CharSet :=
  (set.union other).difference (set.intersection other)

def rangesOfStep (step : Text.Ranges.Step) : List (Nat × Nat) :=
  if step.stride = 1 then [(step.first, step.last)]
  else
    (List.range ((step.last - step.first) / step.stride + 1)).map fun index =>
      (step.first + index * step.stride, step.first + index * step.stride)

def ofTable (ranges : Text.Ranges) : CharSet :=
  ofRanges (ranges.flatMap rangesOfStep)

/-- Every code point that folds to another one, with that one. -/
def foldPairs : List (Nat × Nat) :=
  Text.CaseFold.steps.flatMap fun (step, _) =>
    (rangesOfStep step).flatMap fun (low, high) =>
      (List.range (high - low + 1)).map fun offset => (low + offset, Text.foldCode (low + offset))

/-- The set with all case forms of its characters. -/
def caseClosed (set : CharSet) : CharSet :=
  let targets := foldPairs.filterMap fun (code, target) =>
    if set.contains code || set.contains target then some target else none
  let forms := foldPairs.filterMap fun (code, target) =>
    if targets.contains target then some (code, code) else none
  ofRanges (set.ranges ++ targets.map (fun target => (target, target)) ++ forms)

/-- The set with both cases of its ASCII letters. -/
def asciiCaseClosed (set : CharSet) : CharSet :=
  let pairs := (List.range 26).map fun index => (0x41 + index, 0x61 + index)
  let present := pairs.filter fun (upper, lower) => set.contains upper || set.contains lower
  ofRanges (set.ranges ++ present.flatMap fun (upper, lower) => [(upper, upper), (lower, lower)])

end CharSet

end Groundwork.Pattern
