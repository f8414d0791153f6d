import Groundwork.Decimal.Digits

namespace Groundwork.Decimal

/-! The shortest decimal that reads back as a given binary64 number.

A finite nonzero number is `significand * 2 ^ exponent`.  The decimals that read back as it fill an
interval around it, whose ends belong to it when the significand is even.  For each count of digits
the two neighbours of the number on that decimal grid are tried; the first grid with a neighbour
inside the interval gives the digits, and of two neighbours the nearer one is taken.
-/

structure Binary where
  negative : Bool
  significand : Nat
  exponent : Int
  deriving DecidableEq, Repr

inductive Number where
  | finite (value : Binary)
  | infinite (negative : Bool)
  | undefined
  deriving DecidableEq, Repr

def Number.ofBits (bits : UInt64) : Number :=
  let raw : Nat := bits.toNat
  let negative := raw / Nat.pow 2 63 == 1
  let biased : Nat := raw / Nat.pow 2 52 % Nat.pow 2 11
  let fraction : Nat := raw % Nat.pow 2 52
  if biased = 2047 then if fraction = 0 then .infinite negative else .undefined
  else if biased = 0 then .finite ⟨negative, fraction, -1074⟩
  else .finite ⟨negative, Nat.pow 2 52 + fraction, (biased : Int) - 1075⟩

structure Positive where
  digits : Nat
  exponent : Int
  deriving DecidableEq, Repr

/-- The interval of numbers that round to a binary number, over one denominator. -/
structure Interval where
  low : Nat
  middle : Nat
  high : Nat
  denominator : Nat
  closed : Bool

/-- Below a power of two the neighbouring numbers lie twice as close. -/
def Interval.around (significand : Nat) (exponent : Int) : Interval :=
  let narrow := significand = Nat.pow 2 52 ∧ exponent ≠ -1074
  let low := if narrow then 4 * significand - 1 else 4 * significand - 2
  let scale := exponent - 2
  let up := Nat.pow 2 scale.toNat
  ⟨low * up, 4 * significand * up, (4 * significand + 2) * up, Nat.pow 2 (-scale).toNat, significand % 2 = 0⟩

/-- Whether `digits * 10 ^ exponent` lies in the interval. -/
def Interval.holds (interval : Interval) (decimal : Positive) : Bool :=
  let value := decimal.digits * Nat.pow 10 decimal.exponent.toNat * interval.denominator
  let down := Nat.pow 10 (-decimal.exponent).toNat
  if interval.closed then interval.low * down ≤ value && value ≤ interval.high * down
  else interval.low * down < value && value < interval.high * down

/-- The number of digits before the point; at most zero for a number below one tenth. -/
def Interval.magnitude (interval : Interval) : Int :=
  let guess : Int := (Nat.toDigits 10 interval.middle).length - (Nat.toDigits 10 interval.denominator).length
  let fits (count : Int) : Bool :=
    interval.middle * Nat.pow 10 (-count).toNat < interval.denominator * Nat.pow 10 count.toNat
  if fits guess then guess else guess + 1

def Interval.onGrid? (interval : Interval) (magnitude : Int) (count : Nat) : Option Positive :=
  let exponent := magnitude - count
  let numerator := interval.middle * Nat.pow 10 (-exponent).toNat
  let unit := interval.denominator * Nat.pow 10 exponent.toNat
  let below := numerator / unit
  let remainder := numerator % unit
  let lower : Positive := ⟨below, exponent⟩
  let upper : Positive := ⟨below + 1, exponent⟩
  match interval.holds lower, interval.holds upper with
  | true, true =>
      if 2 * remainder < unit ∨ (2 * remainder = unit ∧ below % 2 = 0) then some lower else some upper
  | true, false => some lower
  | false, true => some upper
  | false, false => none

def Positive.strip (decimal : Positive) : Nat → Positive
  | 0 => decimal
  | fuel + 1 =>
      if decimal.digits % 10 = 0 ∧ decimal.digits ≠ 0 then
        Positive.strip ⟨decimal.digits / 10, decimal.exponent + 1⟩ fuel
      else decimal

/-- The shortest decimal of a positive binary number, without trailing zeros. -/
def shortest (significand : Nat) (exponent : Int) : Positive :=
  let interval := Interval.around significand exponent
  let magnitude := interval.magnitude
  match (List.range' 1 17).findSome? (interval.onGrid? magnitude) with
  | some found => found.strip 17
  | none => ⟨0, 0⟩

structure Layout where
  /-- Positional notation is used while the exponent of the first digit lies between these. -/
  leastPositional : Int
  mostPositional : Int
  exponentMark : List Char
  /-- Stands before an exponent that is not negative. -/
  plus : List Char

def zeros (count : Nat) : List Char :=
  List.replicate count '0'

def Layout.positional (decimal : Positive) : List Char :=
  let written := Nat.toDigits 10 decimal.digits
  let point : Int := written.length + decimal.exponent
  if 0 ≤ decimal.exponent then written ++ zeros decimal.exponent.toNat ++ ['.', '0']
  else if 0 < point then written.take point.toNat ++ '.' :: written.drop point.toNat
  else ['0', '.'] ++ zeros (-point).toNat ++ written

def Layout.scientific (layout : Layout) (decimal : Positive) : List Char :=
  let written := Nat.toDigits 10 decimal.digits
  let first : Int := written.length + decimal.exponent - 1
  let mantissa :=
    match written with
    | leading :: second :: more => leading :: '.' :: second :: more
    | _ => written
  mantissa ++ layout.exponentMark ++ (if 0 ≤ first then layout.plus else []) ++ writeInteger first

def Layout.write (layout : Layout) (value : Binary) : List Char :=
  let sign := if value.negative then ['-'] else []
  if value.significand = 0 then sign ++ ['0', '.', '0']
  else
    let decimal := shortest value.significand value.exponent
    let first : Int := (Nat.toDigits 10 decimal.digits).length + decimal.exponent - 1
    if layout.leastPositional ≤ first ∧ first ≤ layout.mostPositional then
      sign ++ Layout.positional decimal
    else sign ++ layout.scientific decimal

end Groundwork.Decimal
