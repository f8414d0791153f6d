import Groundwork.Decimal.Digits
import Groundwork.Rehearsal.Tool

namespace Groundwork.Rehearsal.Format

/-! Formatted output: escapes, and formats with conversions. -/

def bytesOf (text : String) : List UInt8 := text.toUTF8.toList

def isOctal (letter : Char) : Bool :=
  '0' ≤ letter && letter ≤ '7'

def octalValue (digits : List Char) : Nat :=
  digits.foldl (fun value digit => 8 * value + (digit.toNat - '0'.toNat)) 0

def escapeByte? (letter : Char) : Option UInt8 :=
  match letter with
  | 'a' => some 7
  | 'b' => some 8
  | 'f' => some 12
  | 'n' => some 10
  | 'r' => some 13
  | 't' => some 9
  | 'v' => some 11
  | '\\' => some 92
  | _ => none

/-- An escape behind its backslash: its bytes, and how many letters it takes up.  `needsZero` asks
for a zero in front of octal digits. -/
def escapeAt (needsZero : Bool) (letters : List Char) : List UInt8 × Nat :=
  match letters with
  | [] => ([92], 0)
  | letter :: rest =>
      match escapeByte? letter with
      | some byte => ([byte], 1)
      | none =>
          if needsZero then
            if letter = '0' then
              let digits := (rest.take 3).takeWhile isOctal
              ([(octalValue digits).toUInt8], 1 + digits.length)
            else (92 :: bytesOf (String.singleton letter), 1)
          else if isOctal letter then
            let digits := (letters.take 3).takeWhile isOctal
            ([(octalValue digits).toUInt8], digits.length)
          else if letter = '"' then ([34], 1)
          else (92 :: bytesOf (String.singleton letter), 1)

/-- A text with its escapes replaced; tells whether `\c` ended the output. -/
def unescapeFrom (needsZero : Bool) : Nat → List Char → List UInt8 × Bool
  | _, [] => ([], false)
  | skip + 1, _ :: rest => unescapeFrom needsZero skip rest
  | 0, '\\' :: 'c' :: _ => ([], true)
  | 0, '\\' :: rest =>
      let (bytes, count) := escapeAt needsZero rest
      let (more, ended) := unescapeFrom needsZero count rest
      (bytes ++ more, ended)
  | 0, letter :: rest =>
      let (more, ended) := unescapeFrom needsZero 0 rest
      (bytesOf (String.singleton letter) ++ more, ended)

def unescape (needsZero : Bool) (text : String) : List UInt8 × Bool :=
  unescapeFrom needsZero 0 text.toList

/-- A word that is not a number counts as zero. -/
def integerOf (text : String) : Option Int :=
  match text.toList with
  | '"' :: letter :: _ => some letter.toNat
  | '\'' :: letter :: _ => some letter.toNat
  | [] => some 0
  | letters =>
      let (negative, digits) := match letters with
        | '-' :: rest => (true, rest)
        | '+' :: rest => (false, rest)
        | rest => (false, rest)
      let magnitude : Option Nat := match digits with
        | '0' :: 'x' :: rest =>
            rest.foldl (fun value digit => value.bind fun value =>
              (Text.Utf8.nibble? digit).map fun nibble => 16 * value + nibble.toNat) (some 0)
        | '0' :: rest => if rest.all isOctal then some (octalValue rest) else none
        | _ => Decimal.readDigits? digits
      magnitude.map fun magnitude => if negative then -(magnitude : Int) else magnitude

structure Conversion where
  flags : List Char
  width : Nat
  precision : Option Nat
  kind : Char

def pad (conversion : Conversion) (bytes : List UInt8) (zeros : Bool) : List UInt8 :=
  let missing := conversion.width - bytes.length
  if conversion.flags.contains '-' then bytes ++ List.replicate missing 32
  else if zeros && conversion.flags.contains '0' then
    match bytes with
    | 45 :: rest => 45 :: List.replicate missing 48 ++ rest
    | _ => List.replicate missing 48 ++ bytes
  else List.replicate missing 32 ++ bytes

def signed (conversion : Conversion) (value : Int) : String :=
  let digits := Nat.repr value.natAbs
  let digits := String.ofList (List.replicate ((conversion.precision.getD 0) - digits.length) '0') ++ digits
  if value < 0 then "-" ++ digits
  else if conversion.flags.contains '+' then "+" ++ digits
  else if conversion.flags.contains ' ' then " " ++ digits
  else digits

structure Converted where
  bytes : List UInt8
  complaint : Option String := none
  ended : Bool := false

/-- The number at the head of a word, with a complaint when the word is no number or more than one. -/
def leadingInteger (text : String) : Int × Option String :=
  match integerOf text with
  | some value => (value, none)
  | none =>
      let letters := text.toList
      let heads := (List.range letters.length).reverse.map fun count => String.ofList (letters.take count)
      match heads.findSome? (fun head => if head.isEmpty then none else integerOf head) with
      | some value => (value, some (text ++ ": not completely converted"))
      | none => (0, some (text ++ ": expected numeric value"))

def conversionKinds : List Char := ['s', 'b', 'c', 'd', 'i', 'u', 'o', 'x', 'X']

def convert (conversion : Conversion) (argument : String) : Converted :=
  let cut (bytes : List UInt8) : List UInt8 := match conversion.precision with
    | some limit => bytes.take limit
    | none => bytes
  let number (shown : Int → String) : Converted :=
    let (value, complaint) := leadingInteger argument
    { bytes := pad conversion (bytesOf (shown value)) true, complaint := complaint }
  let unsigned (base : Nat) (value : Int) : String :=
    String.ofList (Nat.toDigits base (if value < 0 then (18446744073709551616 + value).toNat else value.toNat))
  match conversion.kind with
  | 's' => { bytes := pad conversion (cut (bytesOf argument)) false }
  | 'b' =>
      let (bytes, ended) := unescape true argument
      { bytes := pad conversion (cut bytes) false, ended := ended }
  | 'c' => { bytes := pad conversion ((bytesOf argument).take 1) false }
  | 'd' | 'i' => number (signed conversion)
  | 'u' => number (unsigned 10)
  | 'o' => number (unsigned 8)
  | 'x' => number (unsigned 16)
  | 'X' => number fun value => (unsigned 16 value).toUpper
  | _ => { bytes := [] }

/-- What is left of the arguments, and what has come of those before. -/
structure Progress where
  bytes : List UInt8
  arguments : List String
  used : Bool
  complaints : List String
  /-- A fault of the format itself, which ends the output. -/
  refusal : Option String
  ended : Bool

def nextArgument (progress : Progress) : String × Progress :=
  match progress.arguments with
  | argument :: rest => (argument, { progress with arguments := rest, used := true })
  | [] => ("", { progress with used := true })

def formatOnce : Nat → List Char → Progress → Progress
  | 0, _, progress => progress
  | _, [], progress => progress
  | _ + 1, '\\' :: 'c' :: _, progress => { progress with ended := true }
  | fuel + 1, '\\' :: rest, progress =>
      let (bytes, count) := escapeAt false rest
      formatOnce fuel (rest.drop count) { progress with bytes := progress.bytes ++ bytes }
  | fuel + 1, '%' :: '%' :: rest, progress =>
      formatOnce fuel rest { progress with bytes := progress.bytes ++ [37] }
  | fuel + 1, '%' :: rest, progress =>
      let directive := '%' :: rest
      let flags := rest.takeWhile ("-+ 0#".toList.contains ·)
      let rest := rest.drop flags.length
      let (flags, width, rest, progress) := match rest with
        | '*' :: more =>
            let (argument, progress) := nextArgument progress
            let value := (integerOf argument).getD 0
            (if value < 0 then '-' :: flags else flags, value.natAbs, more, progress)
        | _ =>
            let digits := rest.takeWhile Char.isDigit
            (flags, Nat.ofDigitChars 10 digits 0, rest.drop digits.length, progress)
      let (precision, rest, progress) := match rest with
        | '.' :: '*' :: more =>
            let (argument, progress) := nextArgument progress
            (some ((integerOf argument).getD 0).toNat, more, progress)
        | '.' :: more =>
            let digits := more.takeWhile Char.isDigit
            (some (Nat.ofDigitChars 10 digits 0), more.drop digits.length, progress)
        | _ => (none, rest, progress)
      match rest with
      | [] => { progress with refusal := some "missing format character", ended := true }
      | kind :: more =>
          if conversionKinds.contains kind then
            let (argument, progress) := nextArgument progress
            let converted := convert ⟨flags, width, precision, kind⟩ argument
            let progress := { progress with
              bytes := progress.bytes ++ converted.bytes
              complaints := progress.complaints ++ converted.complaint.toList
              ended := converted.ended }
            if converted.ended then progress else formatOnce fuel more progress
          else
            let directive := directive.take (directive.length - more.length)
            { progress with
              refusal := some (String.ofList directive ++ ": invalid directive"), ended := true }
  | fuel + 1, letter :: rest, progress =>
      formatOnce fuel rest { progress with bytes := progress.bytes ++ bytesOf (String.singleton letter) }

/-- Works through a format until the arguments are used up. -/
def formatAll (format : List Char) : Nat → Progress → Progress
  | 0, progress => progress
  | fuel + 1, progress =>
      let after := formatOnce (format.length + 1) format { progress with used := false }
      if after.ended || after.arguments.isEmpty || !after.used then after
      else formatAll format fuel after

def format (text : String) (arguments : List String) : Progress :=
  formatAll text.toList (arguments.length + 1) ⟨[], arguments, false, [], none, false⟩

def printFormatted : Tool := fun call =>
  match call.arguments with
  | [] => { call.refuse 2 "usage: printf format [arg ...]" with status := 2 }
  | "--" :: text :: arguments | text :: arguments =>
      let progress := format text arguments
      let complaints := progress.complaints ++ progress.refusal.toList
      { call.succeed with
        printed := ⟨progress.bytes.toArray⟩
        status := if progress.refusal.isSome then 2 else if complaints.isEmpty then 0 else 1
        complained := (String.join (complaints.map (call.name ++ ": " ++ · ++ "\n"))).toUTF8 }

/-- What the shell echoes: escapes count, and only `-n` is a flag. -/
def echoed (arguments : List String) : ByteArray :=
  let (words, lineEnd) : List String × List UInt8 := match arguments with
    | "-n" :: rest => (rest, [])
    | words => (words, [10])
  let (bytes, ended) := unescape true (" ".intercalate words)
  ⟨(bytes ++ (if ended then [] else lineEnd)).toArray⟩

/-- What the program of that name echoes: escapes count only with `-e`. -/
def echo : Tool := fun call =>
  let isFlag (argument : String) : Bool :=
    match argument.toList with
    | '-' :: letter :: letters => (letter :: letters).all ("neE".toList.contains ·)
    | _ => false
  let flags := (call.arguments.takeWhile isFlag).flatMap String.toList
  let text := " ".intercalate (call.arguments.dropWhile isFlag)
  let lineEnd : List UInt8 := if flags.contains 'n' then [] else [10]
  let (bytes, ended) := if flags.contains 'e' then unescape true text else (bytesOf text, false)
  { call.succeed with printed := ⟨(bytes ++ (if ended then [] else lineEnd)).toArray⟩ }

end Groundwork.Rehearsal.Format
