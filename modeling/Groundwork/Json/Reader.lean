import Groundwork.Json.Value
import Groundwork.Decimal.Digits

namespace Groundwork.Json

/-! JSON text read into values.

Arrays and objects may be nested 127 deep.  Of two members with one key the later counts.  A number
without point and exponent is an integer while it fits 64 bits.  Any other number is taken as the
digits that fit 64 bits and a power of ten, and one multiplication or division joins the two.
-/

def isSpace (letter : Char) : Bool :=
  letter == ' ' || letter == '\n' || letter == '\t' || letter == '\r'

def skipSpace (letters : List Char) : List Char :=
  letters.dropWhile isSpace

structure NumberText where
  negative : Bool
  whole : List Char
  fraction : Option (List Char)
  /-- Whether the exponent is negative, and its digits. -/
  exponent : Option (Bool × List Char)

def isExponentMark (letter : Char) : Bool :=
  letter == 'e' || letter == 'E'

def splitDigits (letters : List Char) : List Char × List Char :=
  (letters.takeWhile Char.isDigit, letters.dropWhile Char.isDigit)

/-- The digits after a point, if a point stands here; at least one must follow it. -/
def splitFraction : List Char → Option (Option (List Char) × List Char)
  | '.' :: rest =>
      match splitDigits rest with
      | ([], _) => none
      | (digits, rest) => some (some digits, rest)
  | letters => some (none, letters)

def splitSign : List Char → Bool × List Char
  | '-' :: rest => (true, rest)
  | '+' :: rest => (false, rest)
  | letters => (false, letters)

def splitExponent : List Char → Option (Option (Bool × List Char) × List Char)
  | [] => some (none, [])
  | letter :: rest =>
      if isExponentMark letter then
        let (negative, rest) := splitSign rest
        match splitDigits rest with
        | ([], _) => none
        | (digits, rest) => some (some (negative, digits), rest)
      else some (none, letter :: rest)

/-- A number has no leading zero. -/
def splitNumber (letters : List Char) : Option (NumberText × List Char) := do
  let (negative, unsigned) :=
    match letters with
    | '-' :: rest => (true, rest)
    | _ => (false, letters)
  let (whole, rest) := splitDigits unsigned
  if whole.isEmpty || (whole.head? = some '0' && whole.length ≠ 1) then none
  else
    let (fraction, rest) ← splitFraction rest
    let (exponent, rest) ← splitExponent rest
    return (⟨negative, whole, fraction, exponent⟩, rest)

def wordLimit : Nat := Nat.pow 2 64

/-- Takes digits while the value fits 64 bits; gives the value and the number of digits left over. -/
def significandOf (value : Nat) : List Char → Nat × Nat
  | [] => (value, 0)
  | digit :: rest =>
      let next := 10 * value + (digit.toNat - '0'.toNat)
      if next < wordLimit then significandOf next rest else (value, rest.length + 1)

def exponentLimit : Nat := Nat.pow 2 31

/-- Scales by powers of ten that binary64 can hold; nothing when the result is too large. -/
def scale (fuel : Nat) (value : Float) (exponent : Int) : Option Float :=
  if exponent.natAbs ≤ 308 then
    let power := Float.ofScientific 1 false exponent.natAbs
    if 0 ≤ exponent then
      let scaled := value * power
      if scaled.isInf then none else some scaled
    else some (value / power)
  else if value == 0.0 then some value
  else if 0 ≤ exponent then none
  else
    match fuel with
    | 0 => some value
    | fuel + 1 => scale fuel (value / Float.ofScientific 1 false 308) (exponent + 308)

def signed (negative : Bool) (value : Float) : Value :=
  .float (if negative then -value else value).toBits

/-- An exponent past 32 bits leaves zero, unless it is positive and the digits are not all zero. -/
def NumberText.fractional (number : NumberText) (significand : Nat) (shift : Int) : Option Value :=
  let start := (UInt64.ofNat significand).toFloat
  match number.exponent with
  | none => (scale 4 start shift).map (signed number.negative)
  | some (down, digits) =>
      let exponent := Nat.ofDigitChars 10 digits 0
      if exponentLimit ≤ exponent then
        if !down && significand ≠ 0 then none else some (signed number.negative 0.0)
      else
        let total := if down then shift - exponent else shift + exponent
        (scale 4 start total).map (signed number.negative)

def NumberText.value (number : NumberText) : Option Value :=
  let (significand, dropped) := significandOf 0 number.whole
  match number.fraction with
  | some digits =>
      let (all, ignored) := significandOf significand digits
      let shift : Int := (dropped : Int) - ((digits.length : Int) - (ignored : Int))
      number.fractional all shift
  | none =>
      if number.exponent.isSome || dropped ≠ 0 then number.fractional significand dropped
      else if !number.negative then some (.integer significand)
      else if significand = 0 ∨ Nat.pow 2 63 < significand then
        some (signed true (UInt64.ofNat significand).toFloat)
      else some (.integer (-(significand : Int)))

def hexValue? (letter : Char) : Option Nat :=
  if '0' ≤ letter && letter ≤ '9' then some (letter.toNat - '0'.toNat)
  else if 'a' ≤ letter && letter ≤ 'f' then some (letter.toNat - 'a'.toNat + 10)
  else if 'A' ≤ letter && letter ≤ 'F' then some (letter.toNat - 'A'.toNat + 10)
  else none

def readUnit : List Char → Option (Nat × List Char)
  | first :: second :: third :: fourth :: rest => do
      let first ← hexValue? first
      let second ← hexValue? second
      let third ← hexValue? third
      let fourth ← hexValue? fourth
      return (4096 * first + 256 * second + 16 * third + fourth, rest)
  | _ => none

/-- The character of a `u` escape; a surrogate needs its partner in an escape of its own. -/
def readCodePoint (letters : List Char) : Option (Char × List Char) := do
  let (unit, rest) ← readUnit letters
  if 0xd800 ≤ unit ∧ unit < 0xdc00 then
    match rest with
    | '\\' :: 'u' :: more =>
        let (low, more) ← readUnit more
        if 0xdc00 ≤ low ∧ low < 0xe000 then
          return (Char.ofNat (0x10000 + 1024 * (unit - 0xd800) + (low - 0xdc00)), more)
        else none
    | _ => none
  else if 0xdc00 ≤ unit ∧ unit < 0xe000 then none
  else return (Char.ofNat unit, rest)

def shortEscape? : Char → Option Char
  | '"' => some '"'
  | '\\' => some '\\'
  | '/' => some '/'
  | 'b' => some '\x08'
  | 'f' => some '\x0c'
  | 'n' => some '\n'
  | 'r' => some '\r'
  | 't' => some '\t'
  | _ => none

/-- Reads up to the closing quote; `pending` holds the letters read so far, last one first. -/
def readString : Nat → List Char → List Char → Option (String × List Char)
  | 0, _, _ => none
  | _ + 1, _, [] => none
  | fuel + 1, pending, letter :: rest =>
      if letter = '"' then some (String.ofList pending.reverse, rest)
      else if letter = '\\' then
        match rest with
        | 'u' :: more =>
            match readCodePoint more with
            | some (value, more) => readString fuel (value :: pending) more
            | none => none
        | escape :: more =>
            match shortEscape? escape with
            | some value => readString fuel (value :: pending) more
            | none => none
        | [] => none
      else if letter.toNat < 0x20 then none
      else readString fuel (letter :: pending) rest

/-- Arrays and objects may be open in each other one less often than this. -/
def depthLimit : Nat := 128

def literals : List (List Char × Value) :=
  [("null".toList, .null), ("true".toList, .bool true), ("false".toList, .bool false)]

def readLiteral (letters : List Char) : Option (Value × List Char) :=
  literals.findSome? fun (word, value) =>
    if word.isPrefixOf letters then some (value, letters.drop word.length) else none

mutual

def readValue : Nat → Nat → List Char → Option (Value × List Char)
  | 0, _, _ => none
  | fuel + 1, depth, letters =>
      match skipSpace letters with
      | '"' :: rest => (readString (rest.length + 1) [] rest).map fun (text, rest) => (.string text, rest)
      | '[' :: rest =>
          if depth ≤ 1 then none
          else
            match skipSpace rest with
            | ']' :: rest => some (.array [], rest)
            | rest => (readItems fuel (depth - 1) rest).map fun (items, rest) => (.array items, rest)
      | '{' :: rest =>
          if depth ≤ 1 then none
          else
            match skipSpace rest with
            | '}' :: rest => some (.object [], rest)
            | rest =>
                (readMembers fuel (depth - 1) rest).map fun (members, rest) =>
                  (.object (Table.ofList members), rest)
      | letters =>
          match readLiteral letters with
          | some found => some found
          | none =>
              match splitNumber letters with
              | some (number, rest) => number.value.map fun value => (value, rest)
              | none => none

def readItems : Nat → Nat → List Char → Option (List Value × List Char)
  | 0, _, _ => none
  | fuel + 1, depth, letters =>
      match readValue fuel depth letters with
      | none => none
      | some (item, rest) =>
          match skipSpace rest with
          | ']' :: rest => some ([item], rest)
          | ',' :: rest => (readItems fuel depth rest).map fun (items, rest) => (item :: items, rest)
          | _ => none

def readMembers : Nat → Nat → List Char → Option (List (String × Value) × List Char)
  | 0, _, _ => none
  | fuel + 1, depth, letters =>
      match skipSpace letters with
      | '"' :: rest =>
          match readString (rest.length + 1) [] rest with
          | none => none
          | some (key, rest) =>
              match skipSpace rest with
              | ':' :: rest =>
                  match readValue fuel depth rest with
                  | none => none
                  | some (value, rest) =>
                      match skipSpace rest with
                      | '}' :: rest => some ([(key, value)], rest)
                      | ',' :: rest =>
                          (readMembers fuel depth rest).map fun (members, rest) =>
                            ((key, value) :: members, rest)
                      | _ => none
              | _ => none
      | _ => none

end

def read (text : String) : Option Value :=
  let letters := text.toList
  match readValue (2 * letters.length + 2) depthLimit letters with
  | some (value, rest) => if (skipSpace rest).isEmpty then some value else none
  | none => none

end Groundwork.Json
