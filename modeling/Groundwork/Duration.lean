import Groundwork.Decimal.Digits

namespace Groundwork

/-! Lengths of time, in whole seconds and nanoseconds below a second.

A duration is shown in the largest unit that it reaches, with the decimals that it needs.
-/

structure Duration where
  seconds : Nat
  nanoseconds : Nat
  deriving DecidableEq, Repr

namespace Duration

def second : Nat := 1000000000

/-- Nanoseconds past a second are carried over. -/
def ofParts (seconds nanoseconds : Nat) : Duration :=
  ⟨seconds + nanoseconds / second, nanoseconds % second⟩

def ofSeconds (seconds : Nat) : Duration := ⟨seconds, 0⟩

def ofMilliseconds (milliseconds : Nat) : Duration :=
  ofParts (milliseconds / 1000) (milliseconds % 1000 * 1000000)

def toNanoseconds (duration : Duration) : Nat :=
  duration.seconds * second + duration.nanoseconds

def dropTrailingZeros (digits : List Char) : List Char :=
  (digits.reverse.dropWhile (· == '0')).reverse

/-- `part` out of `10 ^ places`, as digits after a point. -/
def decimals (part places : Nat) : List Char :=
  let written := Nat.toDigits 10 part
  dropTrailingZeros (List.replicate (places - written.length) '0' ++ written)

def showIn (whole part places : Nat) (unit : String) : String :=
  match decimals part places with
  | [] => s!"{whole}{unit}"
  | fraction => s!"{whole}.{String.ofList fraction}{unit}"

def shown (duration : Duration) : String :=
  let small := duration.nanoseconds
  if 0 < duration.seconds then showIn duration.seconds small 9 "s"
  else if 1000000 ≤ small then showIn (small / 1000000) (small % 1000000) 6 "ms"
  else if 1000 ≤ small then showIn (small / 1000) (small % 1000) 3 "µs"
  else s!"{small}ns"

end Duration

end Groundwork
