import Groundwork.Decimal.Digits

namespace Groundwork.Toml

/-! Dates and times of day.

`Datetime.read` takes what may stand in a document; `Datetime.ofText?` takes a text that holds a
date or time and nothing else, and is laxer about hours and about a zone after a bare date.
-/

structure Date where
  year : Nat
  month : Nat
  day : Nat
  deriving DecidableEq, Repr

structure Time where
  hour : Nat
  minute : Nat
  second : Nat
  nanosecond : Nat
  deriving DecidableEq, Repr

inductive Zone where
  | utc
  | minutes (east : Int)
  deriving DecidableEq, Repr

structure Datetime where
  date : Option Date
  time : Option Time
  zone : Option Zone
  deriving DecidableEq, Repr

def padded (width value : Nat) : List Char :=
  let written := Nat.toDigits 10 value
  List.replicate (width - written.length) '0' ++ written

def Date.write (date : Date) : List Char :=
  padded 4 date.year ++ '-' :: padded 2 date.month ++ '-' :: padded 2 date.day

def Time.write (time : Time) : List Char :=
  let fraction :=
    if time.nanosecond = 0 then []
    else '.' :: ((padded 9 time.nanosecond).reverse.dropWhile (· == '0')).reverse
  padded 2 time.hour ++ ':' :: padded 2 time.minute ++ ':' :: padded 2 time.second ++ fraction

def Zone.write : Zone → List Char
  | .utc => ['Z']
  | .minutes east =>
      (if east < 0 then '-' else '+') :: padded 2 (east.natAbs / 60) ++ ':' :: padded 2 (east.natAbs % 60)

def Datetime.write (datetime : Datetime) : List Char :=
  let date := (datetime.date.map Date.write).getD []
  let time := (datetime.time.map Time.write).getD []
  let mark := if datetime.date.isSome && datetime.time.isSome then ['T'] else []
  date ++ mark ++ time ++ (datetime.zone.map Zone.write).getD []

def Datetime.text (datetime : Datetime) : String :=
  String.ofList datetime.write

/-- Exactly `count` digits. -/
def takeDigits (count : Nat) (letters : List Char) : Option (Nat × List Char) :=
  let taken := letters.take count
  if taken.length = count ∧ taken.all Char.isDigit then
    some (Nat.ofDigitChars 10 taken 0, letters.drop count)
  else none

def takeLetter (letter : Char) : List Char → Option (List Char)
  | [] => none
  | head :: rest => if head = letter then some rest else none

def isLeap (year : Nat) : Bool :=
  year % 4 == 0 && (year % 100 != 0 || year % 400 == 0)

def daysIn (year month : Nat) : Nat :=
  if month = 2 then if isLeap year then 29 else 28
  else if month = 4 ∨ month = 6 ∨ month = 9 ∨ month = 11 then 30
  else 31

def readDate (letters : List Char) : Option (Date × List Char) := do
  let (year, rest) ← takeDigits 4 letters
  let rest ← takeLetter '-' rest
  let (month, rest) ← takeDigits 2 rest
  let rest ← takeLetter '-' rest
  let (day, rest) ← takeDigits 2 rest
  if 1 ≤ month ∧ month ≤ 12 ∧ 1 ≤ day ∧ day ≤ daysIn year month then
    return (⟨year, month, day⟩, rest)
  else none

/-- Digits past the ninth are dropped. -/
def readFraction (letters : List Char) : Option (Nat × List Char) :=
  let digits := letters.takeWhile Char.isDigit
  let kept := digits.take 9
  if digits.isEmpty then none
  else some (Nat.ofDigitChars 10 kept 0 * Nat.pow 10 (9 - kept.length), letters.drop digits.length)

def readTime (lastHour : Nat) (letters : List Char) : Option (Time × List Char) := do
  let (hour, rest) ← takeDigits 2 letters
  let rest ← takeLetter ':' rest
  let (minute, rest) ← takeDigits 2 rest
  let rest ← takeLetter ':' rest
  let (second, rest) ← takeDigits 2 rest
  let (nanosecond, rest) ←
    match rest with
    | '.' :: digits => readFraction digits
    | _ => some (0, rest)
  if hour ≤ lastHour ∧ minute ≤ 59 ∧ second ≤ 60 then
    return (⟨hour, minute, second, nanosecond⟩, rest)
  else none

/-- An offset within a day of universal time. -/
def readOffset (lastHour lastMinute : Nat) (west : Bool) (letters : List Char) :
    Option (Zone × List Char) := do
  let (hour, rest) ← takeDigits 2 letters
  let rest ← takeLetter ':' rest
  let (minute, rest) ← takeDigits 2 rest
  let total := 60 * hour + minute
  if hour ≤ lastHour ∧ minute ≤ lastMinute ∧ total ≤ 24 * 60 then
    return (.minutes (if west then -(total : Int) else total), rest)
  else none

/-- A zone, if one stands here; a sign must be followed by an offset. -/
def readZone (lastHour lastMinute : Nat) : List Char → Option (Option Zone × List Char)
  | 'Z' :: rest | 'z' :: rest => some (some .utc, rest)
  | '+' :: rest => (readOffset lastHour lastMinute false rest).map fun (zone, rest) => (some zone, rest)
  | '-' :: rest => (readOffset lastHour lastMinute true rest).map fun (zone, rest) => (some zone, rest)
  | letters => some (none, letters)

def afterTimeMark? : List Char → Option (List Char)
  | 'T' :: rest | 't' :: rest | ' ' :: rest => some rest
  | _ => none

inductive Datetime.Reading where
  /-- The text is no date or time; it may be a number. -/
  | other
  | broken
  | found (datetime : Datetime) (rest : List Char)

/-- Four digits and a dash. -/
def beginsDate (letters : List Char) : Bool :=
  match takeDigits 4 letters with
  | some (_, '-' :: _) => true
  | _ => false

/-- An hour and a colon. -/
def beginsTime (letters : List Char) : Bool :=
  match takeDigits 2 letters with
  | some (hour, ':' :: _) => hour ≤ 23
  | _ => false

/-- The date or time at the head of a text.  A mark with no time after it is left alone. -/
def Datetime.readHead (letters : List Char) : Datetime.Reading :=
  if beginsDate letters then
    match readDate letters with
    | none => .broken
    | some (date, rest) =>
        match afterTimeMark? rest with
        | none => .found ⟨some date, none, none⟩ rest
        | some clock =>
            if !beginsTime clock then .found ⟨some date, none, none⟩ rest
            else
              match readTime 23 clock with
              | none => .broken
              | some (time, rest) =>
                  match readZone 23 59 rest with
                  | none => .broken
                  | some (zone, rest) => .found ⟨some date, some time, zone⟩ rest
  else if beginsTime letters then
    match readTime 23 letters with
    | none => .broken
    | some (time, rest) => .found ⟨none, some time, none⟩ rest
  else .other

def Datetime.ofText? (text : String) : Option Datetime := do
  let letters := text.toList
  if text.utf8ByteSize < 3 then none
  else if letters[2]? = some ':' then
    let (time, rest) ← readTime 24 letters
    if rest.isEmpty then return ⟨none, some time, none⟩ else none
  else
    let (date, rest) ← readDate letters
    let (time, rest) ←
      match afterTimeMark? rest with
      | some clock => (readTime 24 clock).map fun (time, rest) => (some time, rest)
      | none => some (none, rest)
    let (zone, rest) ← readZone 99 99 rest
    if rest.isEmpty then return ⟨some date, time, zone⟩ else none

end Groundwork.Toml
