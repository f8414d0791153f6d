import Groundwork.Decimal.Digits

namespace Groundwork.Decimal

/-! Decimal numbers turned into binary64 numbers. -/

/-- Every number with its leading digit at or above this power of ten is infinite. -/
def overflowPower : Int := 310

/-- Every number with its leading digit below this power of ten is zero. -/
def underflowPower : Int := -330

/-- The binary64 number nearest to `digits * 10 ^ exponent`; an exact half goes to the even one. -/
def nearest (digits : Nat) (exponent : Int) : Float :=
  let leading : Int := (Nat.toDigits 10 digits).length + exponent
  if digits = 0 ∨ leading < underflowPower then 0.0
  else if overflowPower < leading then 1.0 / 0.0
  else Float.ofScientific digits (decide (exponent < 0)) exponent.natAbs

end Groundwork.Decimal
