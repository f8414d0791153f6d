import Groundwork.Decimal.Digits
import Groundwork.Pattern.Basic
import Groundwork.Text.Blank

namespace Groundwork.Pattern

/-! Regular expressions read into patterns.

Groups count from one in the order of their opening brackets.  There is no looking around and no
reference back to a group.  Flags hold up to the end of the group that they are set in.
-/

structure Flags where
  caseless : Bool := false
  multiline : Bool := false
  dotAll : Bool := false
  swapGreed : Bool := false
  ascii : Bool := false
  verbose : Bool := false
  carriageReturns : Bool := false
  deriving DecidableEq, Repr

/-- Where the reading of a pattern has got to. -/
structure Reading where
  rest : List Char
  flags : Flags
  groups : Nat
  names : List String

def Reading.at (reading : Reading) (rest : List Char) : Reading :=
  { reading with rest := rest }

def skipVerbose : Nat → List Char → List Char
  | 0, letters => letters
  | fuel + 1, letters =>
      match letters with
      | '#' :: rest => skipVerbose fuel (rest.dropWhile (· != '\n'))
      | letter :: rest => if Text.isBlank letter then skipVerbose fuel rest else letters
      | [] => []

/-- In verbose patterns blanks and comments mean nothing. -/
def Reading.skip (reading : Reading) : Reading :=
  if reading.flags.verbose then reading.at (skipVerbose (reading.rest.length + 1) reading.rest)
  else reading

inductive Escape where
  | literal (letter : Char)
  | set (set : CharSet)
  | place (place : Place)

def hexValue? (letter : Char) : Option Nat :=
  if '0' ≤ letter && letter ≤ '9' then some (letter.toNat - '0'.toNat)
  else if 'a' ≤ letter && letter ≤ 'f' then some (letter.toNat - 'a'.toNat + 10)
  else if 'A' ≤ letter && letter ≤ 'F' then some (letter.toNat - 'A'.toNat + 10)
  else none

def codeOf? (digits : List Char) : Option Char := do
  let code ← digits.foldl (fun value? digit => do return 16 * (← value?) + (← hexValue? digit)) (some 0)
  if digits.isEmpty then none
  else if code < 0xd800 ∨ (0xe000 ≤ code ∧ code ≤ CharSet.lastCode) then some (Char.ofNat code)
  else none

def isAscii (letter : Char) : Bool :=
  letter.toNat < 0x80

/-- The text up to a closing brace, with what follows the brace. -/
def braced? (letters : List Char) : Option (List Char × List Char) :=
  let inner := letters.takeWhile (· != '}')
  match letters.drop inner.length with
  | '}' :: rest => some (inner, rest)
  | _ => none

/-- A code in braces, or `count` digits.  Two digits name a byte where bytes are matched, and one outside
the ASCII letters is no character. -/
def readHex (flags : Flags) (count : Nat) (letters : List Char) : Option (Escape × List Char) :=
  match letters with
  | '{' :: rest => do
      let (digits, rest) ← braced? rest
      let letter ← codeOf? digits
      return (.literal letter, rest)
  | _ =>
      let digits := letters.take count
      if digits.length = count then do
        let letter ← codeOf? digits
        if flags.ascii && count == 2 && !isAscii letter then none
        else return (.literal letter, letters.drop count)
      else none

def negateIf (negated : Bool) (set : CharSet) : CharSet :=
  if negated then set.complement else set

/-- A set of bytes outside the ASCII letters is no set of characters. -/
def perlSet (flags : Flags) (negated : Bool) (unicode ascii : CharSet) : Option CharSet :=
  if flags.ascii then if negated then none else some ascii
  else some (negateIf negated unicode)

def readProperty (flags : Flags) (negated : Bool) (letters : List Char) :
    Option (Escape × List Char) :=
  if flags.ascii then none
  else
    match letters with
    | '{' :: rest => do
        let (name, rest) ← braced? rest
        let set ← Named.set? name
        return (.set (negateIf negated set), rest)
    | letter :: rest => do
        let set ← Named.set? [letter]
        return (.set (negateIf negated set), rest)
    | [] => none

def boundaries : List (List Char × (Bool → Place)) :=
  [("{start}".toList, .wordStart), ("{end}".toList, .wordEnd),
    ("{start-half}".toList, .wordStartHalf), ("{end-half}".toList, .wordEndHalf)]

def isBoundaryLetter (letter : Char) : Bool :=
  letter.isAlpha || letter == '-'

/-- A brace that opens no name is left to be read as a count. -/
def readBoundary (flags : Flags) (letters : List Char) : Option (Escape × List Char) :=
  match letters with
  | '{' :: first :: _ =>
      if isBoundaryLetter first then do
        let (name, place) ← boundaries.find? (fun entry => entry.1.isPrefixOf letters)
        return (.place (place flags.ascii), letters.drop name.length)
      else some (.place (.wordBoundary flags.ascii), letters)
  | _ => some (.place (.wordBoundary flags.ascii), letters)

def isEscapable (letter : Char) : Bool :=
  isAscii letter && !letter.isAlphanum && letter != '<' && letter != '>'

/-- What stands after a backslash. -/
def readEscape (flags : Flags) : List Char → Option (Escape × List Char)
  | [] => none
  | letter :: rest =>
      let set (negated : Bool) (unicode ascii : CharSet) : Option (Escape × List Char) :=
        (perlSet flags negated unicode ascii).map fun set => (.set set, rest)
      match letter with
      | 'd' => set false Named.digit Named.asciiDigit
      | 'D' => set true Named.digit Named.asciiDigit
      | 's' => set false Named.space Named.asciiSpace
      | 'S' => set true Named.space Named.asciiSpace
      | 'w' => set false Named.word Named.asciiWord
      | 'W' => set true Named.word Named.asciiWord
      | 'p' => readProperty flags false rest
      | 'P' => readProperty flags true rest
      | 'x' => readHex flags 2 rest
      | 'u' => readHex flags 4 rest
      | 'U' => readHex flags 8 rest
      | 'a' => some (.literal '\x07', rest)
      | 'f' => some (.literal '\x0c', rest)
      | 't' => some (.literal '\t', rest)
      | 'n' => some (.literal '\n', rest)
      | 'r' => some (.literal '\r', rest)
      | 'v' => some (.literal '\x0b', rest)
      | 'A' => some (.place .textStart, rest)
      | 'z' => some (.place .textEnd, rest)
      | 'b' => readBoundary flags rest
      | 'B' => some (.place (.notWordBoundary flags.ascii), rest)
      | '<' => some (.place (.wordStart flags.ascii), rest)
      | '>' => some (.place (.wordEnd flags.ascii), rest)
      | _ => if isEscapable letter then some (.literal letter, rest) else none

def closeCase (flags : Flags) (set : CharSet) : CharSet :=
  if !flags.caseless then set
  else if flags.ascii then set.asciiCaseClosed
  else set.caseClosed

/-- A class such as `[:alpha:]`, after its first bracket. -/
def readAsciiClass (letters : List Char) : Option (CharSet × List Char) :=
  match letters with
  | ':' :: rest =>
      let (negated, rest) :=
        match rest with
        | '^' :: rest => (true, rest)
        | _ => (false, rest)
      let name := rest.takeWhile (fun letter => letter.isAlphanum)
      match rest.drop name.length with
      | ':' :: ']' :: rest => (Named.ascii? (String.ofList name)).map fun set => (negateIf negated set, rest)
      | _ => none
  | _ => none

inductive SetOperator where
  | both
  | without
  | oneOf

def SetOperator.apply (operator : SetOperator) (left right : CharSet) : CharSet :=
  match operator with
  | .both => left.intersection right
  | .without => left.difference right
  | .oneOf => left.symmetricDifference right

/-- The operands so far: the operations done, and the operator that waits for its right side. -/
abbrev SetStack := Option (CharSet × SetOperator)

def SetStack.close (flags : Flags) (stack : SetStack) (items : CharSet) : CharSet :=
  match stack with
  | none => items
  | some (left, operator) => operator.apply (closeCase flags left) (closeCase flags items)

def skipIn (flags : Flags) (letters : List Char) : List Char :=
  if flags.verbose then skipVerbose (letters.length + 1) letters else letters

inductive SetItem where
  | literal (letter : Char)
  | set (set : CharSet)

/-- A set of bytes has ASCII letters only. -/
def setLiteral (flags : Flags) (letter : Char) (rest : List Char) : Option (SetItem × List Char) :=
  if flags.ascii && !isAscii letter then none else some (.literal letter, rest)

def readSetItem (flags : Flags) : List Char → Option (SetItem × List Char)
  | [] => none
  | '\\' :: rest =>
      match readEscape flags rest with
      | some (.literal letter, rest) => setLiteral flags letter rest
      | some (.set set, rest) => some (.set set, rest)
      | _ => none
  | letter :: rest => setLiteral flags letter rest

/-- One item or a range of two. -/
def readSetRange (flags : Flags) (letters : List Char) : Option (CharSet × List Char) := do
  let (first, rest) ← readSetItem flags letters
  let alone : CharSet :=
    match first with
    | .literal letter => .single letter
    | .set set => set
  match skipIn flags rest with
  | '-' :: more =>
      match skipIn flags more with
      | ']' :: _ | '-' :: _ | [] => return (alone, skipIn flags rest)
      | more =>
          match first, ← readSetItem flags more with
          | .literal low, (.literal high, rest) =>
              if low ≤ high then return (.range low.toNat high.toNat, rest) else none
          | _, _ => none
  | rest => return (alone, rest)

def takeDashes (letters : List Char) : CharSet × List Char :=
  let dashes := letters.takeWhile (· == '-')
  (if dashes.isEmpty then .empty else .single '-', letters.drop dashes.length)

mutual

/-- A bracketed set after its opening bracket.  A bracket that closes nothing yet is a literal. -/
def readSet : Nat → Flags → List Char → Option (CharSet × List Char)
  | 0, _, _ => none
  | fuel + 1, flags, letters =>
      let (negated, rest) :=
        match skipIn flags letters with
        | '^' :: rest => (true, skipIn flags rest)
        | rest => (false, rest)
      let (dashes, rest) := takeDashes rest
      let (start, rest) :=
        match rest with
        | ']' :: more => if dashes.ranges.isEmpty then (CharSet.single ']', more) else (dashes, rest)
        | _ => (dashes, rest)
      match readSetItems fuel flags none start rest with
      | some (set, rest) =>
          if flags.ascii && negated then none
          else some (negateIf negated (closeCase flags set), rest)
      | none => none

def readSetItems : Nat → Flags → SetStack → CharSet → List Char → Option (CharSet × List Char)
  | 0, _, _, _, _ => none
  | fuel + 1, flags, stack, items, letters =>
      let operator (operator : SetOperator) (rest : List Char) :=
        readSetItems fuel flags (some (stack.close flags items, operator)) .empty rest
      match skipIn flags letters with
      | [] => none
      | ']' :: rest => some (stack.close flags items, rest)
      | '&' :: '&' :: rest => operator .both rest
      | '-' :: '-' :: rest => operator .without rest
      | '~' :: '~' :: rest => operator .oneOf rest
      | '[' :: rest =>
          match readAsciiClass rest with
          | some (set, rest) => readSetItems fuel flags stack (items.union set) rest
          | none =>
              match readSet fuel flags rest with
              | some (set, rest) => readSetItems fuel flags stack (items.union set) rest
              | none => none
      | rest =>
          match readSetRange flags rest with
          | some (set, rest) => readSetItems fuel flags stack (items.union set) rest
          | none => none

end

def setFlag (value : Bool) (flags : Flags) : Char → Option Flags
  | 'i' => some { flags with caseless := value }
  | 'm' => some { flags with multiline := value }
  | 's' => some { flags with dotAll := value }
  | 'U' => some { flags with swapGreed := value }
  | 'u' => some { flags with ascii := !value }
  | 'x' => some { flags with verbose := value }
  | 'R' => some { flags with carriageReturns := value }
  | _ => none

def setFlags (value : Bool) (flags : Flags) : List Char → Option Flags
  | [] => some flags
  | letter :: rest => (setFlag value flags letter).bind fun flags => setFlags value flags rest

/-- No flag may be named twice, and a dash needs a flag after it. -/
def readFlags (flags : Flags) (letters : List Char) : Option Flags :=
  let on := letters.takeWhile (· != '-')
  let named := letters.filter (· != '-')
  if named.eraseDups.length ≠ named.length then none
  else
    match letters.drop on.length with
    | [] => setFlags true flags on
    | _ :: off =>
        if off.isEmpty || off.contains '-' then none
        else (setFlags true flags on).bind fun flags => setFlags false flags off

def isNameStart (letter : Char) : Bool :=
  letter == '_' || (Named.ofCategories (.letterNumber :: Named.letters)).holds letter

def isNameLetter (letter : Char) : Bool :=
  isNameStart letter || letter == '.' || letter == '[' || letter == ']' ||
    (Named.ofCategories [.decimalNumber, .letterNumber, .otherNumber]).holds letter

/-- A group name up to its closing angle. -/
def readName (letters : List Char) : Option (String × List Char) :=
  let name := letters.takeWhile (· != '>')
  match name, letters.drop name.length with
  | start :: more, '>' :: rest =>
      if isNameStart start && more.all isNameLetter then some (String.ofList name, rest) else none
  | _, _ => none

def countLimit : Nat := Nat.pow 2 32

def trimmed (letters : List Char) : List Char :=
  Text.trimLetters letters

/-- The bounds between braces: `n`, `n,` or `n,m`. -/
def readBounds (flags : Flags) (letters : List Char) : Option (Nat × Option Nat) :=
  match Text.splitLetters ',' letters with
  | [count] => (Decimal.readDigits? (trimmed count)).map fun count => (count, some count)
  | [least, most] => do
      let least ← Decimal.readDigits? (trimmed least)
      if (skipIn flags most).isEmpty then return (least, none)
      else
        let most ← Decimal.readDigits? (trimmed most)
        if least ≤ most then return (least, some most) else none
  | _ => none

def boundsFit : Nat × Option Nat → Bool
  | (least, most) => least < countLimit && (most.getD 0) < countLimit

/-- A question mark after a repetition turns its greed around. -/
def repeated (reading : Reading) (inner : Pattern) (least : Nat) (most : Option Nat)
    (rest : List Char) : Pattern × Reading :=
  let (lazily, rest) :=
    match rest with
    | '?' :: rest => (true, rest)
    | _ => (false, rest)
  (.repetition inner least most (lazily == reading.flags.swapGreed), reading.at rest)

def literal (flags : Flags) (letter : Char) : Pattern :=
  .oneOf (closeCase flags (.single letter))

def anyLetter (flags : Flags) : Option Pattern :=
  if flags.ascii then none
  else if flags.dotAll then some (.oneOf .full)
  else if flags.carriageReturns then
    some (.oneOf (CharSet.complement ⟨[(0x0a, 0x0a), (0x0d, 0x0d)]⟩))
  else some (.oneOf (CharSet.range 0x0a 0x0a).complement)

def startPlace (flags : Flags) : Pattern :=
  .standing (if flags.multiline then .lineStart flags.carriageReturns else .textStart)

def endPlace (flags : Flags) : Pattern :=
  .standing (if flags.multiline then .lineEnd flags.carriageReturns else .textEnd)

/-- One letter, set or place. -/
def readAtom (flags : Flags) : List Char → Option (Pattern × List Char)
  | [] => none
  | '.' :: rest => (anyLetter flags).map fun pattern => (pattern, rest)
  | '^' :: rest => some (startPlace flags, rest)
  | '$' :: rest => some (endPlace flags, rest)
  | '[' :: rest => (readSet (2 * rest.length + 2) flags rest).map fun (set, rest) => (.oneOf set, rest)
  | '\\' :: rest =>
      match readEscape flags rest with
      | some (.literal letter, rest) => some (literal flags letter, rest)
      | some (.set set, rest) => some (.oneOf (closeCase flags set), rest)
      | some (.place place, rest) => some (.standing place, rest)
      | none => none
  | letter :: rest => some (literal flags letter, rest)

/-- How a group opens: whether it captures, and under which name, or which flags it sets. -/
inductive Opening where
  | capture (name : Option String)
  | plain (flags : Flags)
  | setting (flags : Flags)

def readOpening (flags : Flags) (letters : List Char) : Option (Opening × List Char) :=
  match letters with
  | '?' :: '=' :: _ | '?' :: '!' :: _ | '?' :: '<' :: '=' :: _ | '?' :: '<' :: '!' :: _ => none
  | '?' :: 'P' :: '<' :: rest | '?' :: '<' :: rest =>
      (readName rest).map fun (name, rest) => (.capture (some name), rest)
  | '?' :: rest =>
      let named := rest.takeWhile (fun letter => letter != ':' && letter != ')')
      match rest.drop named.length with
      | ':' :: rest => (readFlags flags named).map fun flags => (.plain flags, rest)
      | ')' :: rest =>
          if named.isEmpty then none else (readFlags flags named).map fun flags => (.setting flags, rest)
      | _ => none
  | _ => some (.capture none, letters)

def addName (name : Option String) (names : List String) : Option (List String) :=
  match name with
  | none => some names
  | some name => if names.contains name then none else some (name :: names)

/-- Groups may be nested this deep. -/
def depthLimit : Nat := 250

mutual

/-- The alternatives up to a closing bracket or the end. -/
def readChoice : Nat → Nat → Reading → Option (Pattern × Reading)
  | 0, _, _ => none
  | fuel + 1, depth, reading =>
      match readSequence fuel depth [] none reading with
      | none => none
      | some (first, reading) =>
          match reading.rest with
          | '|' :: rest =>
              (readChoice fuel depth (reading.at rest)).map fun (second, reading) =>
                (.choice first second, reading)
          | _ => some (first, reading)

/-- `done` holds the items before the last one, latest first; only the last one can be repeated. -/
def readSequence : Nat → Nat → List Pattern → Option Pattern → Reading → Option (Pattern × Reading)
  | 0, _, _, _, _ => none
  | fuel + 1, depth, done, last, reading =>
      let reading := reading.skip
      let finish := some (ofSequence (last.toList ++ done).reverse, reading)
      let repeating (least : Nat) (most : Option Nat) (rest : List Char) :=
        match last with
        | none => none
        | some inner =>
            let (pattern, reading) := repeated reading inner least most rest
            readSequence fuel depth done (some pattern) reading
      let advance (pattern : Pattern) (reading : Reading) :=
        readSequence fuel depth (last.toList ++ done) (some pattern) reading
      match reading.rest with
      | [] => finish
      | '|' :: _ => finish
      | ')' :: _ => finish
      | '*' :: rest => repeating 0 none rest
      | '+' :: rest => repeating 1 none rest
      | '?' :: rest => repeating 0 (some 1) rest
      | '{' :: rest =>
          match braced? rest with
          | none => none
          | some (inner, rest) =>
              match readBounds reading.flags inner with
              | some (least, most) =>
                  if boundsFit (least, most) then repeating least most (skipIn reading.flags rest) else none
              | none => none
      | '(' :: rest =>
          match readOpening reading.flags (skipIn reading.flags rest) with
          | none => none
          | some (.setting flags, rest) =>
              readSequence fuel depth (last.toList ++ done) none { reading with flags := flags, rest := rest }
          | some (.plain flags, rest) =>
              match readGroup fuel depth { reading with flags := flags, rest := rest } with
              | some (inner, after) => advance inner { after with flags := reading.flags }
              | none => none
          | some (.capture name, rest) =>
              match addName name reading.names with
              | none => none
              | some names =>
                  let index := reading.groups + 1
                  match readGroup fuel depth ⟨rest, reading.flags, index, names⟩ with
                  | some (inner, after) => advance (.group index inner) { after with flags := reading.flags }
                  | none => none
      | letters =>
          match readAtom reading.flags letters with
          | some (pattern, rest) => advance pattern (reading.at rest)
          | none => none

/-- The inside of a group and its closing bracket. -/
def readGroup : Nat → Nat → Reading → Option (Pattern × Reading)
  | 0, _, _ => none
  | fuel + 1, depth, reading =>
      if depthLimit ≤ depth then none
      else
        match readChoice fuel (depth + 1) reading with
        | some (inner, after) =>
            match after.rest with
            | ')' :: rest => some (inner, after.at rest)
            | _ => none
        | none => none

end

def read (text : String) : Option Pattern :=
  let letters := text.toList
  match readChoice (4 * letters.length + 4) 0 ⟨letters, {}, 0, []⟩ with
  | some (pattern, reading) => if reading.rest.isEmpty then some pattern else none
  | none => none

end Groundwork.Pattern
