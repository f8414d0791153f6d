import Groundwork.Decimal.Nearest
import Groundwork.Toml.Value

namespace Groundwork.Toml

/-! Blanks, line ends, strings, numbers and keys of TOML text.

Every reader takes the letters from its first one on and gives what it read with the letters after
it; it gives nothing where the text is malformed.
-/

def isSpace (letter : Char) : Bool :=
  letter == ' ' || letter == '\t'

def skipSpace (letters : List Char) : List Char :=
  letters.dropWhile isSpace

/-- Control characters other than the tab stand in no comment and in no string. -/
def isPlain (letter : Char) : Bool :=
  letter == '\t' || (0x20 ≤ letter.toNat && letter.toNat ≠ 0x7f)

def skipComment : List Char → List Char
  | '#' :: rest => rest.dropWhile isPlain
  | letters => letters

def lineEnd? : List Char → Option (List Char)
  | '\n' :: rest => some rest
  | '\r' :: '\n' :: rest => some rest
  | _ => none

/-- The rest of a line after its last item: blanks and a comment. -/
def finishLine (letters : List Char) : Option (List Char) :=
  match skipComment (skipSpace letters) with
  | [] => some []
  | rest => lineEnd? rest

/-- Blanks, comments and line ends between the items of an array. -/
def skipLines : Nat → List Char → List Char
  | 0, letters => letters
  | fuel + 1, letters =>
      let rest := skipComment (skipSpace letters)
      match lineEnd? rest with
      | some next => skipLines fuel next
      | none => rest

def hexValue? (letter : Char) : Option Nat :=
  if '0' ≤ letter && letter ≤ '9' then some (letter.toNat - '0'.toNat)
  else if 'a' ≤ letter && letter ≤ 'f' then some (letter.toNat - 'a'.toNat + 10)
  else if 'A' ≤ letter && letter ≤ 'F' then some (letter.toNat - 'A'.toNat + 10)
  else none

def hexNumber? (letters : List Char) : Option Nat :=
  letters.foldl (fun value? letter => do return 16 * (← value?) + (← hexValue? letter)) (some 0)

/-- A code point of exactly `count` hexadecimal digits; surrogates are none. -/
def readCodePoint (count : Nat) (letters : List Char) : Option (Char × List Char) :=
  let taken := letters.take count
  if taken.length ≠ count then none
  else
    match hexNumber? taken with
    | some code =>
        if code < 0xd800 ∨ (0xe000 ≤ code ∧ code < 0x110000) then
          some (Char.ofNat code, letters.drop count)
        else none
    | none => none

/-- What stands after a backslash. -/
def readEscape : List Char → Option (Char × List Char)
  | 'b' :: rest => some ('\x08', rest)
  | 't' :: rest => some ('\t', rest)
  | 'n' :: rest => some ('\n', rest)
  | 'f' :: rest => some ('\x0c', rest)
  | 'r' :: rest => some ('\r', rest)
  | '"' :: rest => some ('"', rest)
  | '\\' :: rest => some ('\\', rest)
  | 'u' :: rest => readCodePoint 4 rest
  | 'U' :: rest => readCodePoint 8 rest
  | _ => none

/-- Up to the closing double quote; `pending` is what was read, last letter first. -/
def readBasic : Nat → List Char → List Char → Option (String × List Char)
  | 0, _, _ => none
  | fuel + 1, pending, letters =>
      match letters with
      | [] => none
      | '"' :: rest => some (String.ofList pending.reverse, rest)
      | '\\' :: rest =>
          match readEscape rest with
          | some (letter, rest) => readBasic fuel (letter :: pending) rest
          | none => none
      | letter :: rest => if isPlain letter then readBasic fuel (letter :: pending) rest else none

def readLiteral (letters : List Char) : Option (String × List Char) :=
  let content := letters.takeWhile (fun letter => isPlain letter && letter != '\'')
  match letters.drop content.length with
  | '\'' :: rest => some (String.ofList content, rest)
  | _ => none

/-- After a backslash at the end of a line, blanks and line ends up to the next text are dropped. -/
def skipFolded : Nat → List Char → List Char
  | 0, letters => letters
  | fuel + 1, letters =>
      let rest := skipSpace letters
      match lineEnd? rest with
      | some next => skipFolded fuel next
      | none => rest

/-- The closing marks of a string over several lines: three, after up to two that belong to it. -/
def closing? (mark : Char) (letters : List Char) : Option (Nat × List Char) :=
  let count := (letters.takeWhile (· == mark)).length
  if count < 3 then none else some (min count 5 - 3, letters.drop (min count 5))

/-- A string over several lines; only a basic one knows escapes. -/
def readMultiline (mark : Char) (escapes : Bool) :
    Nat → List Char → List Char → Option (String × List Char)
  | 0, _, _ => none
  | fuel + 1, pending, letters =>
      match closing? mark letters with
      | some (extra, rest) =>
          some (String.ofList (List.replicate extra mark ++ pending).reverse, rest)
      | none =>
          match lineEnd? letters with
          | some rest => readMultiline mark escapes fuel ('\n' :: pending) rest
          | none =>
              match letters with
              | [] => none
              | '\\' :: rest =>
                  if !escapes then readMultiline mark escapes fuel ('\\' :: pending) rest
                  else if (lineEnd? (skipSpace rest)).isSome then
                    readMultiline mark escapes fuel pending (skipFolded (rest.length + 1) rest)
                  else
                    match readEscape rest with
                    | some (letter, rest) => readMultiline mark escapes fuel (letter :: pending) rest
                    | none => none
              | letter :: rest =>
                  if isPlain letter then readMultiline mark escapes fuel (letter :: pending) rest
                  else none

/-- A line end right after the opening marks is no part of the string. -/
def dropFirstLineEnd (letters : List Char) : List Char :=
  (lineEnd? letters).getD letters

def readString : List Char → Option (String × List Char)
  | '"' :: '"' :: '"' :: rest =>
      let body := dropFirstLineEnd rest
      readMultiline '"' true (body.length + 1) [] body
  | '\'' :: '\'' :: '\'' :: rest =>
      let body := dropFirstLineEnd rest
      readMultiline '\'' false (body.length + 1) [] body
  | '"' :: rest => readBasic (rest.length + 1) [] rest
  | '\'' :: rest => readLiteral rest
  | _ => none

/-- Digits in which single underscores may stand between two digits. -/
def takeGrouped (isDigit : Char → Bool) : Nat → List Char → Option (List Char × List Char)
  | 0, _ => none
  | fuel + 1, letters =>
      match letters with
      | [] => none
      | letter :: rest =>
          if !isDigit letter then none
          else
            match rest with
            | '_' :: more =>
                (takeGrouped isDigit fuel more).map fun (digits, rest) => (letter :: digits, rest)
            | next :: _ =>
                if isDigit next then
                  (takeGrouped isDigit fuel rest).map fun (digits, rest) => (letter :: digits, rest)
                else some ([letter], rest)
            | [] => some ([letter], [])

def takeDecimal (letters : List Char) : Option (List Char × List Char) :=
  takeGrouped Char.isDigit (letters.length + 1) letters

inductive Sign where
  | absent
  | plus
  | minus
  deriving DecidableEq, Repr

def Sign.read : List Char → Sign × List Char
  | '+' :: rest => (.plus, rest)
  | '-' :: rest => (.minus, rest)
  | letters => (.absent, letters)

/-- Digits with no leading zero; a zero stands alone. -/
def takeWhole : List Char → Option (List Char × List Char)
  | '0' :: rest => some (['0'], rest)
  | letters => takeDecimal letters

def readRadix (radix : Nat) (isDigit : Char → Bool) (letters : List Char) :
    Option (Value × List Char) :=
  match takeGrouped isDigit (letters.length + 1) letters with
  | none => none
  | some (digits, rest) =>
      let value : Nat := digits.foldl (fun value digit => radix * value + (hexValue? digit).getD 0) 0
      if isInteger value then some (.integer value, rest) else none

def isHexDigit (letter : Char) : Bool :=
  (hexValue? letter).isSome

def isOctalDigit (letter : Char) : Bool :=
  '0' ≤ letter && letter ≤ '7'

def isBinaryDigit (letter : Char) : Bool :=
  letter == '0' || letter == '1'

def floatValue (sign : Sign) (magnitude : Float) : Value :=
  .float (if sign = .minus then -magnitude else magnitude).toBits

def infinity : Float := 1.0 / 0.0

/-- Positive and without payload. -/
def undefinedBits : UInt64 := 0x7ff8000000000000

/-- The exponent of a number, if an exponent mark stands here. -/
def readExponent : List Char → Option (Option Int × List Char)
  | [] => some (none, [])
  | letter :: rest =>
      if letter == 'e' || letter == 'E' then
        let (sign, rest) := Sign.read rest
        match takeDecimal rest with
        | some (digits, rest) =>
            let value : Int := Nat.ofDigitChars 10 digits 0
            some (some (if sign = .minus then -value else value), rest)
        | none => none
      else some (none, letter :: rest)

/-- A positive number too large for a float is refused; a negative one becomes minus infinity. -/
def finishFloat (sign : Sign) (whole fraction : List Char) (exponent : Int) (rest : List Char) :
    Option (Value × List Char) :=
  let magnitude := Decimal.nearest (Nat.ofDigitChars 10 (whole ++ fraction) 0) (exponent - fraction.length)
  if magnitude.isInf && sign ≠ .minus then none else some (floatValue sign magnitude, rest)

def finishInteger (sign : Sign) (whole rest : List Char) : Option (Value × List Char) :=
  let magnitude : Int := Nat.ofDigitChars 10 whole 0
  let value := if sign = .minus then -magnitude else magnitude
  if isInteger value then some (.integer value, rest) else none

def readDecimal (sign : Sign) (letters : List Char) : Option (Value × List Char) :=
  match takeWhole letters with
  | none => none
  | some (whole, rest) =>
      match rest with
      | '.' :: digits =>
          match takeDecimal digits with
          | none => none
          | some (fraction, rest) =>
              match readExponent rest with
              | none => none
              | some (exponent, rest) => finishFloat sign whole fraction (exponent.getD 0) rest
      | _ =>
          match readExponent rest with
          | none => none
          | some (some exponent, rest) => finishFloat sign whole [] exponent rest
          | some (none, rest) => finishInteger sign whole rest

def readNumber (letters : List Char) : Option (Value × List Char) :=
  match letters with
  | '0' :: 'x' :: rest => readRadix 16 isHexDigit rest
  | '0' :: 'o' :: rest => readRadix 8 isOctalDigit rest
  | '0' :: 'b' :: rest => readRadix 2 isBinaryDigit rest
  | _ =>
      let (sign, rest) := Sign.read letters
      match rest with
      | 'i' :: 'n' :: 'f' :: rest => some (floatValue sign infinity, rest)
      | 'n' :: 'a' :: 'n' :: rest => some (.float undefinedBits, rest)
      | rest => readDecimal sign rest

/-- Numbers, dates and times begin alike. -/
def readNumeric (letters : List Char) : Option (Value × List Char) :=
  match Datetime.readHead letters with
  | .found datetime rest => some (.datetime datetime, rest)
  | .broken => none
  | .other => readNumber letters

def isBare (letter : Char) : Bool :=
  ('a' ≤ letter && letter ≤ 'z') || ('A' ≤ letter && letter ≤ 'Z') || Char.isDigit letter ||
    letter == '_' || letter == '-'

def readSimpleKey (letters : List Char) : Option (String × List Char) :=
  match letters with
  | '"' :: rest => readBasic (rest.length + 1) [] rest
  | '\'' :: rest => readLiteral rest
  | _ =>
      let name := letters.takeWhile isBare
      if name.isEmpty then none else some (String.ofList name, letters.drop name.length)

/-- Key parts with dots between them, and blanks around each. -/
def readKeyParts : Nat → List Char → Option (List String × List Char)
  | 0, _ => none
  | fuel + 1, letters =>
      match readSimpleKey (skipSpace letters) with
      | none => none
      | some (part, rest) =>
          match skipSpace rest with
          | '.' :: more => (readKeyParts fuel more).map fun (parts, rest) => (part :: parts, rest)
          | rest => some ([part], rest)

/-- Nothing in a document is nested this deep. -/
def depthLimit : Nat := 80

def readKey (letters : List Char) : Option (List String × List Char) :=
  match readKeyParts (letters.length + 1) letters with
  | some (parts, rest) => if parts.length < depthLimit then some (parts, rest) else none
  | none => none

end Groundwork.Toml
