import Groundwork.Decimal.Digits
import Groundwork.Rehearsal.Expression
import Groundwork.Rehearsal.Tool
import Groundwork.Text.Blank
import Groundwork.Text.Lines

namespace Groundwork.Rehearsal.TextTools

/-! Tools that pass text on, changed or not. -/

def textOf (bytes : ByteArray) : String :=
  Text.Utf8.readReplacing bytes

def linesOf (text : String) : List String :=
  let parts := Text.split '\n' text
  if parts.getLast? = some "" then parts.dropLast else parts

def ofLines (lines : List String) : ByteArray :=
  (String.join (lines.map (· ++ "\n"))).toUTF8

def onLines (act : List String → List String) (bytes : ByteArray) : ByteArray :=
  ofLines (act (linesOf (textOf bytes)))

def concatenate : Tool := fun call => call.filter call.operands id

/-- A count that is given as an option, or as a bare number behind a dash. -/
def countOf (call : Call) (letters : List Char) : List (Char × String) × List String :=
  let arguments := call.arguments.map fun argument =>
    match argument.toList with
    | '-' :: digits => if !digits.isEmpty && digits.all Char.isDigit then "-n" ++ String.ofList digits else argument
    | _ => argument
  Call.takeValues letters arguments

def numberOf (text : String) : Nat :=
  Nat.ofDigitChars 10 (text.toList.filter Char.isDigit) 0

def headLines : Nat → List Char → List Char
  | 0, _ => []
  | _, [] => []
  | count + 1, letters =>
      let line := letters.takeWhile (· != '\n')
      match letters.drop line.length with
      | [] => line
      | _ :: rest => line ++ '\n' :: headLines count rest

def opening : Call.Naming := fun operand cause =>
  if cause = .isDirectory then "error reading '" ++ operand ++ "'"
  else "cannot open '" ++ operand ++ "' for reading"

def head : Tool := fun call =>
  let (values, operands) := countOf call ['n', 'c']
  let operands := (Call.flagsAndOperands operands).2
  match values.lookup 'c', values.lookup 'n' with
  | some count, _ => call.filterNaming opening operands fun bytes => bytes.extract 0 (numberOf count)
  | none, count =>
      call.filterNaming opening operands fun bytes =>
        (String.ofList (headLines ((count.map numberOf).getD 10) (textOf bytes).toList)).toUTF8

def tail : Tool := fun call =>
  let (values, operands) := countOf call ['n', 'c']
  let operands := (Call.flagsAndOperands operands).2
  match values.lookup 'c', values.lookup 'n' with
  | some count, _ =>
      call.filterNaming opening operands fun bytes =>
        bytes.extract (bytes.size - numberOf count) bytes.size
  | none, count =>
      let count := count.getD "10"
      call.filterNaming opening operands fun bytes =>
        let text := textOf bytes
        let lines := linesOf text
        let kept :=
          if count.toList.head? = some '+' then lines.drop (numberOf count - 1)
          else lines.drop (lines.length - numberOf count)
        let joined := "\n".intercalate kept
        (if !kept.isEmpty && text.endsWith "\n" then joined ++ "\n" else joined).toUTF8

def wordCount (letters : List Char) : Nat :=
  let isStart : Char × Char → Bool := fun (before, letter) =>
    Text.isBlank before && !Text.isBlank letter
  ((' ' :: letters).zip letters).countP isStart

def count : Tool := fun call =>
  let operands := if call.operands.isEmpty then ["-"] else call.operands
  let wanted (flag : Char) : Bool :=
    call.flags.contains flag || (call.flags.isEmpty && flag ≠ 'm')
  let only := (['l', 'w', 'c', 'm'].filter wanted).length = 1
  let counts (bytes : ByteArray) : List Nat :=
    let letters := (textOf bytes).toList
    (if wanted 'l' then [letters.count '\n'] else []) ++
      (if wanted 'w' then [wordCount letters] else []) ++
      (if wanted 'm' then [letters.length] else []) ++
      (if wanted 'c' then [bytes.size] else [])
  let pad (width value : Nat) : String :=
    let digits := Nat.repr value
    String.ofList (List.replicate (width - digits.length) ' ') ++ digits
  let sizes := operands.map fun operand =>
    match call.bytesOf operand with
    | .ok bytes => bytes.size
    | .error _ => 0
  let width :=
    if operands = ["-"] then (if only then 1 else 7)
    else if only && operands.length = 1 then 1
    else (Nat.repr (sizes.foldl (· + ·) 0)).length
  let row (counts : List Nat) (name : String) : String :=
    " ".intercalate (counts.map (pad width)) ++ (if name = "-" then "" else " " ++ name)
  let found := operands.filterMap fun operand =>
    match call.bytesOf operand with
    | .ok bytes => some (counts bytes)
    | .error _ => none
  let rows := call.each operands fun call operand =>
    match call.bytesOf operand with
    | .ok bytes => call.printLines [row (counts bytes) (if call.operands.isEmpty then "-" else operand)]
    | .error cause => call.refuse 1 (operand ++ ": " ++ Call.attempt.reason cause)
  if 1 < operands.length then
    let total := found.foldl (fun total counts => total.zipWith (· + ·) counts)
      (List.replicate ((found.head?.map List.length).getD 0) 0)
    { rows with printed := rows.printed ++ (row total "total" ++ "\n").toUTF8 }
  else rows

/-- The number that a line begins with, for sorting by number. -/
def leadingNumber (line : String) : Int :=
  let letters := line.toList.dropWhile Text.isBlank
  match letters with
  | '-' :: rest => -(Nat.ofDigitChars 10 (rest.takeWhile Char.isDigit) 0 : Int)
  | _ => (Nat.ofDigitChars 10 (letters.takeWhile Char.isDigit) 0 : Int)

def dropRepeated : List String → List String
  | first :: second :: rest =>
      if first = second then dropRepeated (second :: rest) else first :: dropRepeated (second :: rest)
  | lines => lines

/-- Nothing is sorted unless everything can be read. -/
def sort : Tool := fun call =>
  let byNumber := call.has 'n' "numeric-sort"
  let before (line other : String) : Bool :=
    if byNumber && leadingNumber line ≠ leadingNumber other then
      decide (leadingNumber line < leadingNumber other)
    else line ≤ other
  let name : Call.Naming := fun operand cause =>
    (if cause = .isDirectory then "read failed: " else "cannot read: ") ++ operand
  let gathered := call.filterNaming name call.operands id
  if gathered.status ≠ 0 then
    let first := gathered.complained.toList.takeWhile (· ≠ 10)
    { gathered with status := 2, printed := .empty, complained := ⟨(first ++ [10]).toArray⟩ }
  else
    { gathered with
      printed := onLines (fun lines =>
        let sorted := lines.mergeSort before
        let ordered := if call.has 'r' "reverse" then sorted.reverse else sorted
        if call.has 'u' "unique" then dropRepeated ordered else ordered) gathered.printed }

def runs : List String → List (Nat × String)
  | [] => []
  | line :: rest =>
      match runs rest with
      | (count, next) :: more => if line = next then (count + 1, next) :: more else (1, line) :: (count, next) :: more
      | [] => [(1, line)]

def unique : Tool := fun call =>
  let pad (value : Nat) : String :=
    let digits := Nat.repr value
    String.ofList (List.replicate (7 - digits.length) ' ') ++ digits
  call.filterAll call.operands (onLines fun lines =>
    let kept := (runs lines).filter fun (count, _) =>
      if call.flags.contains 'd' then 1 < count else if call.flags.contains 'u' then count = 1 else true
    kept.map fun (count, line) => if call.flags.contains 'c' then pad count ++ " " ++ line else line)

/-- Ranges of fields or letters, such as `1,3-5,7-`. -/
def readRanges (text : String) : List (Nat × Option Nat) :=
  (Text.split ',' text).map fun range =>
    match Text.split '-' range with
    | [only] => (numberOf only, some (numberOf only))
    | low :: high :: _ =>
        (if low.isEmpty then 1 else numberOf low, if high.isEmpty then none else some (numberOf high))
    | [] => (1, none)

def isChosen (ranges : List (Nat × Option Nat)) (index : Nat) : Bool :=
  ranges.any fun (low, high) => low ≤ index && (match high with
    | some high => index ≤ high
    | none => true)

def choose (ranges : List (Nat × Option Nat)) (items : List α) : List α :=
  (items.zipIdx 1).filterMap fun (item, index) => if isChosen ranges index then some item else none

def cut : Tool := fun call =>
  let (values, rest) := Call.takeValues ['d', 'f', 'c', 'b'] call.arguments
  let operands := (Call.flagsAndOperands rest).2
  let onlyCut := (Call.flagsAndOperands rest).1.contains 's'
  match values.lookup 'f', (values.lookup 'c').or (values.lookup 'b') with
  | some ranges, _ =>
      let mark := ((values.lookup 'd').bind fun text => text.toList.head?).getD '\t'
      call.filterAll operands (onLines fun lines =>
        lines.filterMap fun line =>
          let fields := Text.split mark line
          if fields.length = 1 then (if onlyCut then none else some line)
          else some ((String.singleton mark).intercalate (choose (readRanges ranges) fields)))
  | none, some ranges =>
      call.filterAll operands (onLines fun lines =>
        lines.map fun line => String.ofList (choose (readRanges ranges) line.toList))
  | none, none => call.refuse 1 "you must specify a list of bytes, characters, or fields"

/-- The letters of a set, with its ranges and classes written out. -/
def letterSet : List Char → List Char
  | '\\' :: 'n' :: rest => '\n' :: letterSet rest
  | '\\' :: 't' :: rest => '\t' :: letterSet rest
  | '\\' :: 'r' :: rest => '\r' :: letterSet rest
  | '\\' :: letter :: rest => letter :: letterSet rest
  | first :: '-' :: last :: rest =>
      (List.range (last.toNat + 1 - first.toNat)).map (fun step => Char.ofNat (first.toNat + step)) ++
        letterSet rest
  | letter :: rest => letter :: letterSet rest
  | [] => []

def setOf (text : String) : List Char :=
  let classes := [("upper", "A-Z"), ("lower", "a-z"), ("digit", "0-9"), ("alpha", "A-Za-z"),
    ("alnum", "A-Za-z0-9"), ("space", " \t\n\x0b\x0c\r"), ("blank", " \t")]
  let written := classes.foldl
    (fun text (name, ranges) => text.replace ("[:" ++ name ++ ":]") ranges) text
  letterSet written.toList

def squeeze (set : List Char) : List Char → List Char
  | first :: second :: rest =>
      if first = second && set.contains first then squeeze set (second :: rest)
      else first :: squeeze set (second :: rest)
  | letters => letters

def transliterate : Tool := fun call =>
  let sets := call.operands.map setOf
  let outside := call.flags.contains 'c' || call.flags.contains 'C'
  let first := (sets[0]?).getD []
  let second := (sets[1]?).getD []
  let isMember (letter : Char) : Bool := first.contains letter != outside
  let replaced (letter : Char) : Char :=
    if !isMember letter then letter
    else
      let index := if outside then second.length else (first.findIdx? (· = letter)).getD 0
      ((second[index]?).or second.getLast?).getD letter
  call.filter [] fun bytes =>
    let letters := (textOf bytes).toList
    let changed :=
      if call.flags.contains 'd' then letters.filter (fun letter => !isMember letter)
      else if second.isEmpty then letters
      else letters.map replaced
    let shorter :=
      if call.flags.contains 's' then squeeze (if second.isEmpty then first else second) changed else changed
    (String.ofList shorter).toUTF8

def tee : Tool := fun call =>
  let write := if call.has 'a' "append" then Store.appendBytes call.input else Store.writeBytes call.input
  let written := call.each call.operands fun call path => call.attempt path (write path)
  { written with printed := call.input }

def grep : Tool := fun call =>
  let (values, rest) := Call.takeValues ['e', 'm'] call.arguments
  let (flags, operands) := Call.flagsAndOperands rest
  let has (flag : Char) : Bool := flags.contains flag
  let extended := has 'E' || call.name = "egrep"
  let isFixed := has 'F' || call.name = "fgrep"
  let (patterns, files) := match values.lookup 'e', operands with
    | some pattern, _ => ([pattern], operands)
    | none, pattern :: files => ([pattern], files)
    | none, [] => ([], [])
  let expressions := patterns.map fun pattern =>
    if isFixed then some (.group 0 [pattern.toList.map .exactly]) else Expression.read extended pattern
  match patterns, expressions with
  | [], _ => call.refuse 2 "no pattern"
  | _, [some expression] =>
      let whole (text : List Char) (groups : Expression.Groups) : Bool :=
        match Expression.spanOf groups 0 with
        | some (start, finish) => !has 'x' || (start = 0 && finish = text.length)
        | none => false
      let holds (line : String) : Bool :=
        let found :=
          match Expression.findFrom (has 'i') expression line.toList 0 line.toList with
          | some groups => whole line.toList groups
          | none => false
        found != has 'v'
      let pieces (line : String) : List String :=
        let text := line.toList
        (Expression.spansFrom (has 'i') expression text (text.length + 1) 0).map fun span =>
          String.ofList (Expression.slice text span)
      let operands := if files.isEmpty then ["-"] else files
      let named := 1 < files.length && !has 'h'
      let lead (operand : String) : String := if named then operand ++ ":" else ""
      let matched (operand : String) : List (String × Nat) :=
        match call.bytesOf operand with
        | .ok bytes => ((linesOf (textOf bytes)).zipIdx 1).filter fun (line, _) => holds line
        | .error _ => []
      let any := operands.any fun operand => !(matched operand).isEmpty
      let isReadable (operand : String) : Bool := (call.bytesOf operand).isOk
      let printed := operands.map fun operand =>
        let lines := matched operand
        if has 'q' || !isReadable operand then ""
        else if has 'l' then (if lines.isEmpty then "" else operand ++ "\n")
        else if has 'c' then lead operand ++ Nat.repr lines.length ++ "\n"
        else
          String.join (lines.map fun (line, number) =>
            let mark := lead operand ++ (if has 'n' then Nat.repr number ++ ":" else "")
            if has 'o' then String.join ((pieces line).map fun piece => mark ++ piece ++ "\n")
            else mark ++ line ++ "\n")
      let complaints := operands.filterMap fun operand =>
        match call.bytesOf operand with
        | .ok _ => none
        | .error cause => some (call.name ++ ": " ++ operand ++ ": " ++ Call.attempt.reason cause ++ "\n")
      { call.print (String.join printed) with
        status := if has 'q' && any then 0 else if !complaints.isEmpty then 2 else if any then 0 else 1
        complained := if has 's' then .empty else (String.join complaints).toUTF8 }
  | _, _ => call.refuse 2 "Invalid regular expression"

inductive Address where
  | line (number : Nat)
  | lastLine
  | matching (expression : Expression)

inductive Edit where
  | replace (expression : Expression) (new : List Char) (everywhere folded shown : Bool) (nth : Nat)
  | delete
  | show
  | quit

structure EditRule where
  first : Option Address
  last : Option Address
  negated : Bool
  edit : Edit

/-- Letters up to an unescaped mark, and what stands behind it. -/
def upTo (mark : Char) : List Char → Option (List Char × List Char)
  | [] => none
  | '\\' :: letter :: rest =>
      (upTo mark rest).map fun (text, more) =>
        if letter = mark then (letter :: text, more) else ('\\' :: letter :: text, more)
  | letter :: rest =>
      if letter = mark then some ([], rest) else (upTo mark rest).map fun (text, more) => (letter :: text, more)

def readAddress (extended : Bool) (letters : List Char) : Option (Address × List Char) :=
  match letters with
  | '$' :: rest => some (.lastLine, rest)
  | '/' :: rest =>
      match upTo '/' rest with
      | some (text, more) => (Expression.read extended (String.ofList text)).map fun expression => (.matching expression, more)
      | none => none
  | letter :: _ =>
      if letter.isDigit then
        let digits := letters.takeWhile Char.isDigit
        some (.line (Nat.ofDigitChars 10 digits 0), letters.drop digits.length)
      else none
  | [] => none

def readEdit (extended : Bool) (letters : List Char) : Option (Edit × List Char) :=
  match letters with
  | 's' :: mark :: rest =>
      match upTo mark rest with
      | some (old, more) =>
          match upTo mark more, Expression.read extended (String.ofList old) with
          | some (new, more), some expression =>
              let flags := more.takeWhile fun letter => letter.isAlphanum
              let nth := Nat.ofDigitChars 10 (flags.filter Char.isDigit) 0
              some (.replace expression new (flags.contains 'g')
                (flags.contains 'i' || flags.contains 'I') (flags.contains 'p') (max nth 1),
                more.drop flags.length)
          | _, _ => none
      | none => none
  | 'd' :: rest => some (.delete, rest)
  | 'p' :: rest => some (.show, rest)
  | 'q' :: rest => some (.quit, rest)
  | _ => none

def isGap (letter : Char) : Bool :=
  letter = ' ' || letter = ';' || letter = '\n' || letter = '\t'

def readRules (extended : Bool) : Nat → List Char → Option (List EditRule)
  | 0, _ => none
  | fuel + 1, letters =>
      match letters.dropWhile isGap with
      | [] => some []
      | letters =>
          let (first, letters) := match readAddress extended letters with
            | some (address, rest) => (some address, rest)
            | none => (none, letters)
          let (last, letters) := match first, letters with
            | some _, ',' :: rest =>
                match readAddress extended rest with
                | some (address, rest) => (some address, rest)
                | none => (none, letters)
            | _, _ => (none, letters)
          let letters := letters.dropWhile (· = ' ')
          let negated := letters.head? = some '!'
          match readEdit extended (if negated then letters.drop 1 else letters) with
          | none => none
          | some (edit, rest) =>
              (readRules extended fuel rest).map fun rules => ⟨first, last, negated, edit⟩ :: rules

def isAt (address : Address) (number : Nat) (isLast : Bool) (line : String) : Bool :=
  match address with
  | .line wanted => number = wanted
  | .lastLine => isLast
  | .matching expression => Expression.isIn false expression line.toList

/-- Whether a rule applies to a line, and whether its range is still open afterwards. -/
def applies (rule : EditRule) (inRange : Bool) (number : Nat) (isLast : Bool) (line : String) :
    Bool × Bool :=
  match rule.first, rule.last with
  | none, _ => (true, false)
  | some first, none => (isAt first number isLast line, false)
  | some first, some last =>
      if inRange then (true, !isAt last number isLast line)
      else if isAt first number isLast line then
        match last with
        | .line wanted => (true, number < wanted)
        | _ => (true, true)
      else (false, false)

/-- The replacement of a match: `&` stands for the match, a backslash and a digit for a group. -/
def filled (text : List Char) (groups : Expression.Groups) : List Char → List Char
  | '\\' :: letter :: rest =>
      (if letter.isDigit then
          ((Expression.spanOf groups (letter.toNat - '0'.toNat)).map (Expression.slice text)).getD []
        else if letter = 'n' then ['\n'] else if letter = 't' then ['\t'] else [letter]) ++
        filled text groups rest
  | '&' :: rest =>
      ((Expression.spanOf groups 0).map (Expression.slice text)).getD [] ++ filled text groups rest
  | letter :: rest => letter :: filled text groups rest
  | [] => []

/-- Replaces matches from a position on; `nth` counts down to the first that is replaced. -/
def replaceFrom (folded : Bool) (expression : Expression) (new text : List Char) (everywhere : Bool) :
    Nat → Nat → Nat → List Char
  | 0, index, _ => text.drop index
  | fuel + 1, index, nth =>
      match Expression.findFrom folded expression text index (text.drop index) with
      | none => text.drop index
      | some groups =>
          match Expression.spanOf groups 0 with
          | none => text.drop index
          | some (start, finish) =>
              let before := (text.drop index).take (start - index)
              let shown := if nth ≤ 1 then filled text groups new else Expression.slice text (start, finish)
              let step := if finish = start then (text.drop finish).take 1 else []
              let next := finish + (if finish = start then 1 else 0)
              if nth ≤ 1 && !everywhere then before ++ shown ++ text.drop finish
              else if text.length < next then before ++ shown
              else
                before ++ shown ++ step ++
                  replaceFrom folded expression new text everywhere fuel next (nth - 1)

structure EditState where
  line : String
  printed : List String
  deleted : Bool
  ended : Bool

def applyEdit (edit : Edit) (state : EditState) : EditState :=
  match edit with
  | .delete => { state with deleted := true }
  | .quit => { state with ended := true }
  | .show => { state with printed := state.printed ++ [state.line] }
  | .replace expression new everywhere folded shown nth =>
      let text := state.line.toList
      if Expression.isIn folded expression text then
        let line := String.ofList (replaceFrom folded expression new text everywhere (text.length + 2) 0 nth)
        { state with line := line, printed := if shown then state.printed ++ [line] else state.printed }
      else state

/-- Applies all rules to a line; gives the open ranges for the next line. -/
def applyRules (number : Nat) (isLast : Bool) :
    List (EditRule × Bool) → EditState → List Bool × EditState
  | [], state => ([], state)
  | (rule, inRange) :: rest, state =>
      if state.deleted || state.ended then ((rule, inRange) :: rest |>.map Prod.snd, state)
      else
        let (applied, stillOpen) := applies rule inRange number isLast state.line
        let state := if applied != rule.negated then applyEdit rule.edit state else state
        let (opened, state) := applyRules number isLast rest state
        (stillOpen :: opened, state)

def editLines (quiet : Bool) (rules : List EditRule) : Nat → List Bool → List String → List String
  | _, _, [] => []
  | number, opened, line :: rest =>
      let (opened, state) := applyRules number rest.isEmpty (rules.zip opened) ⟨line, [], false, false⟩
      let shown := state.printed ++ (if quiet || state.deleted then [] else [state.line])
      shown ++ (if state.ended then [] else editLines quiet rules (number + 1) opened rest)

/-- The input keeps a missing line feed at its end. -/
def edited (quiet : Bool) (rules : List EditRule) (bytes : ByteArray) : ByteArray :=
  let text := textOf bytes
  let lines := editLines quiet rules 1 (rules.map fun _ => false) (linesOf text)
  let joined := "\n".intercalate lines
  (if lines.isEmpty || (!text.endsWith "\n" && !text.isEmpty) then joined else joined ++ "\n").toUTF8

def edit : Tool := fun call =>
  let (values, rest) := Call.takeValues ['e'] call.arguments
  let (flags, operands) := Call.flagsAndOperands rest
  let scripts := (values.filter fun (letter, _) => letter = 'e').map Prod.snd
  let (script, files) := match scripts, operands with
    | [], script :: files => (script, files)
    | scripts, files => ("\n".intercalate scripts, files)
  match readRules (flags.contains 'E' || flags.contains 'r') (script.length + 1) script.toList with
  | none => call.refuse 1 "-e expression #1, char 0: unknown command"
  | some rules =>
      let act := edited (flags.contains 'n') rules
      if flags.contains 'i' then
        call.each files fun call path =>
          match call.store.readBytes path with
          | .ok bytes => call.attempt ("couldn't edit " ++ path) (Store.writeBytes (act bytes) path)
          | .error cause => call.refuse 2 ("can't read " ++ path ++ ": " ++ Call.attempt.reason cause)
      else
        let gathered := call.each (if files.isEmpty then ["-"] else files) fun call operand =>
          match call.bytesOf operand with
          | .ok bytes => { call.succeed with printed := bytes }
          | .error cause => call.refuse 2 ("can't read " ++ operand ++ ": " ++ Call.attempt.reason cause)
        { gathered with printed := act gathered.printed }

end Groundwork.Rehearsal.TextTools
