namespace Groundwork.Decimal

/-! Whole numbers written in decimal digits, and read back under a limit. -/

/-- One digit or more, and nothing else. -/
def readDigits? (letters : List Char) : Option Nat :=
  if letters.isEmpty || !letters.all Char.isDigit then none else some (Nat.ofDigitChars 10 letters 0)

def dropPlus : List Char → List Char
  | '+' :: rest => rest
  | letters => letters

/-- A number below `limit`, after an optional plus sign. -/
def readBelow? (limit : Nat) (letters : List Char) : Option (Fin limit) :=
  match readDigits? (dropPlus letters) with
  | some value => if small : value < limit then some ⟨value, small⟩ else none
  | none => none

def smallest : Int := -9223372036854775808

def largest : Int := 9223372036854775807

/-- A 64-bit integer, after an optional sign. -/
def readInteger? (letters : List Char) : Option Int :=
  let signed : Option Int :=
    match letters with
    | '-' :: rest => (readDigits? rest).map fun value => -(value : Int)
    | '+' :: rest => (readDigits? rest).map fun value => (value : Int)
    | _ => (readDigits? letters).map fun value => (value : Int)
  match signed with
  | some value => if smallest ≤ value ∧ value ≤ largest then some value else none
  | none => none

def writeInteger (value : Int) : List Char :=
  match value with
  | .ofNat magnitude => Nat.toDigits 10 magnitude
  | .negSucc less => '-' :: Nat.toDigits 10 (less + 1)

end Groundwork.Decimal
