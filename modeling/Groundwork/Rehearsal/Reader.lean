import Groundwork.Rehearsal.Script
import Groundwork.Vars

namespace Groundwork.Rehearsal

/-! Reading shell scripts.

The reader goes through the letters once.  Its fuel bounds how deep commands and words nest and how
long they are; the number of letters is always enough.
-/

structure Cursor where
  letters : List Char
  line : Nat
  /-- Lines that were taken out behind this one. -/
  gone : Nat

/-- Why a script cannot be read, and on which line. -/
abbrev SyntaxFault := Nat × String

abbrev Read := StateT Cursor (Except SyntaxFault)

namespace Read

def fault (text : String) : Read α := fun cursor =>
  .error (cursor.line, "Syntax error: " ++ text)

def letters : Read (List Char) := fun cursor => .ok (cursor.letters, cursor)

/-- Passes over letters, and counts the lines among them. -/
def skip (count : Nat) : Read Unit := fun cursor =>
  let lines := (cursor.letters.take count).count '\n'
  let rest := cursor.letters.drop count
  if lines = 0 then .ok ((), ⟨rest, cursor.line, cursor.gone⟩)
  else .ok ((), ⟨rest, cursor.line + lines + cursor.gone, 0⟩)

def line : Read Nat := fun cursor => .ok (cursor.line, cursor)

/-- A fault that only shows at the end of the script. -/
def faultAtEnd (text : String) : Read α := do
  skip (← letters).length
  fault text

end Read

namespace Reader

def isBlank (letter : Char) : Bool :=
  letter == ' ' || letter == '\t'

def isMeta (letter : Char) : Bool :=
  isBlank letter || letter == '\n' || letter == ';' || letter == '&' || letter == '|' ||
    letter == '<' || letter == '>' || letter == '(' || letter == ')'

/-- How many letters blanks, comments and joined lines take up; `lines` lets line ends count too. -/
def gap (lines : Bool) : Bool → List Char → Nat
  | _, [] => 0
  | true, letter :: rest =>
      if letter == '\n' then (if lines then 1 + gap lines false rest else 0)
      else 1 + gap lines true rest
  | false, '\\' :: '\n' :: rest => 2 + gap lines false rest
  | false, letter :: rest =>
      if isBlank letter then 1 + gap lines false rest
      else if letter == '\n' then (if lines then 1 + gap lines false rest else 0)
      else if letter == '#' then 1 + gap lines true rest
      else 0

def skipBlanks : Read Unit := do Read.skip (gap false false (← Read.letters))

def skipSpace : Read Unit := do Read.skip (gap true false (← Read.letters))

def keywords : List String :=
  ["if", "then", "else", "elif", "fi", "while", "until", "do", "done", "for", "case", "esac", "\x7b",
    "\x7d", "!", "in"]

def closers : List String :=
  ["then", "else", "elif", "fi", "do", "done", "esac", "\x7d"]

def keywordAt? (letters : List Char) : Option String :=
  keywords.find? fun keyword =>
    keyword.toList.isPrefixOf letters &&
      (match (letters.drop keyword.length).head? with
        | none => true
        | some next => isMeta next)

/-- What stands next, as a complaint names it. -/
def shownNext (letters : List Char) : String :=
  match letters with
  | [] => "end of file"
  | '\n' :: _ => "newline"
  | ';' :: ';' :: _ => "\";;\""
  | '&' :: '&' :: _ => "\"&&\""
  | '|' :: '|' :: _ => "\"||\""
  | letter :: _ =>
      if letter == '<' || letter == '>' then "redirection"
      else if isMeta letter then "\"" ++ String.singleton letter ++ "\""
      else
        match keywordAt? letters with
        | some keyword => "\"" ++ keyword ++ "\""
        | none => "word"

def unexpected : Read α := do Read.fault (shownNext (← Read.letters) ++ " unexpected")

def expect (keyword : String) : Read Unit := do
  skipSpace
  let letters ← Read.letters
  if keywordAt? letters = some keyword then Read.skip keyword.length
  else Read.fault (shownNext letters ++ " unexpected (expecting \"" ++ keyword ++ "\")")

/-- A name at the head of the letters; it may be empty. -/
def nameAt (letters : List Char) : List Char :=
  match letters with
  | first :: _ => if Vars.isNameStart first then letters.takeWhile Vars.isNameLetter else []
  | [] => []

/-- Variables whose name is one sign. -/
def isSpecial (letter : Char) : Bool :=
  "?$#@*!-".toList.contains letter || letter.isDigit

/-- A name, a number or a sign that a variable between braces goes by. -/
def parameterAt (letters : List Char) : List Char :=
  match nameAt letters, letters with
  | [], letter :: _ =>
      if letter.isDigit then letters.takeWhile Char.isDigit
      else if isSpecial letter then [letter] else []
  | name, _ => name

/-- Whether the letters between braces ask for the size of a variable. -/
def isSized (letters : List Char) : Bool :=
  match letters with
  | '#' :: rest =>
      let name := parameterAt rest
      !name.isEmpty && (rest.drop name.length).head? = some '}'
  | _ => false

def readSingle : Read Piece := do
  let letters ← Read.letters
  let text := letters.takeWhile (· != '\'')
  if text.length = letters.length then Read.faultAtEnd "Unterminated quoted string"
  else
    Read.skip (text.length + 1)
    return .literal (String.ofList text) true

/-- The letters of a backquoted script, with the backslashes taken off that only served the quoting. -/
def backquoted (quoted : Bool) : List Char → Option (List Char × Nat)
  | [] => none
  | '`' :: _ => some ([], 1)
  | '\\' :: letter :: rest =>
      (backquoted quoted rest).map fun (text, count) =>
        if letter == '`' || letter == '$' || letter == '\\' || (quoted && letter == '"') then
          (letter :: text, count + 2)
        else ('\\' :: letter :: text, count + 2)
  | letter :: rest => (backquoted quoted rest).map fun (text, count) => (letter :: text, count + 1)

/-- How many letters an arithmetic expression takes up, up to its two closing brackets. -/
def arithmeticLength : Nat → List Char → Option Nat
  | _, [] => none
  | 0, ')' :: ')' :: _ => some 0
  | depth, '(' :: rest => (arithmeticLength (depth + 1) rest).map (· + 1)
  | depth, ')' :: rest => (arithmeticLength (depth - 1) rest).map (· + 1)
  | depth, _ :: rest => (arithmeticLength depth rest).map (· + 1)

/-- The body of a text that stands in the script, and what stands behind it. -/
def splitHere (endMark : List Char) (dropTabs : Bool) :
    Nat → List Char → List Char × List Char
  | 0, letters => ([], letters)
  | _, [] => ([], [])
  | fuel + 1, letters =>
      let whole := letters.takeWhile (· != '\n')
      let rest := (letters.dropWhile (· != '\n')).drop 1
      let line := if dropTabs then whole.dropWhile (· == '\t') else whole
      if line = endMark then ([], rest)
      else
        let (body, after) := splitHere endMark dropTabs fuel rest
        (line ++ '\n' :: body, after)

mutual

/-- The pieces of a word up to the first letter that ends it. -/
def readWord : Nat → Read Word
  | 0 => Read.fault "script too long"
  | fuel + 1 => do
      match ← Read.letters with
      | [] => return []
      | '\'' :: _ => do
          Read.skip 1
          let piece ← readSingle
          return piece :: (← readWord fuel)
      | '"' :: _ => do
          Read.skip 1
          let pieces ← readQuoted fuel
          return .literal "" true :: pieces ++ (← readWord fuel)
      | '\\' :: '\n' :: _ => do
          Read.skip 2
          readWord fuel
      | '\\' :: letter :: _ => do
          Read.skip 2
          return .literal (String.singleton letter) true :: (← readWord fuel)
      | '$' :: _ => do
          Read.skip 1
          let piece ← readDollar fuel false
          return piece :: (← readWord fuel)
      | '`' :: _ => do
          Read.skip 1
          let piece ← readBackquoted fuel false
          return piece :: (← readWord fuel)
      | letter :: _ =>
          if isMeta letter then return []
          else
            Read.skip 1
            return .literal (String.singleton letter) false :: (← readWord fuel)

def readQuoted : Nat → Read Word
  | 0 => Read.fault "script too long"
  | fuel + 1 => do
      match ← Read.letters with
      | [] => Read.fault "Unterminated quoted string"
      | '"' :: _ => do
          Read.skip 1
          return []
      | '\\' :: '\n' :: _ => do
          Read.skip 2
          readQuoted fuel
      | '\\' :: letter :: _ => do
          Read.skip 2
          let text :=
            if "$`\"\\".toList.contains letter then String.singleton letter
            else String.ofList ['\\', letter]
          return .literal text true :: (← readQuoted fuel)
      | '$' :: _ => do
          Read.skip 1
          let piece ← readDollar fuel true
          return piece :: (← readQuoted fuel)
      | '`' :: _ => do
          Read.skip 1
          let piece ← readBackquoted fuel true
          return piece :: (← readQuoted fuel)
      | letter :: _ => do
          Read.skip 1
          return .literal (String.singleton letter) true :: (← readQuoted fuel)

/-- The word of a change, up to its closing brace. -/
def readBraced : Nat → Bool → Read Word
  | 0, _ => Read.fault "script too long"
  | fuel + 1, quoted => do
      match ← Read.letters with
      | [] => Read.fault "Missing '\x7d'"
      | '}' :: _ => do
          Read.skip 1
          return []
      | '\'' :: _ =>
          Read.skip 1
          if quoted then return .literal "'" true :: (← readBraced fuel quoted)
          else
            let piece ← readSingle
            return piece :: (← readBraced fuel quoted)
      | '"' :: _ => do
          Read.skip 1
          let pieces ← readQuoted fuel
          return .literal "" true :: pieces ++ (← readBraced fuel quoted)
      | '\\' :: letter :: _ => do
          Read.skip 2
          return .literal (String.singleton letter) true :: (← readBraced fuel quoted)
      | '$' :: _ => do
          Read.skip 1
          let piece ← readDollar fuel quoted
          return piece :: (← readBraced fuel quoted)
      | '`' :: _ => do
          Read.skip 1
          let piece ← readBackquoted fuel quoted
          return piece :: (← readBraced fuel quoted)
      | letter :: _ => do
          Read.skip 1
          return .literal (String.singleton letter) quoted :: (← readBraced fuel quoted)

def readBackquoted : Nat → Bool → Read Piece
  | 0, _ => Read.fault "script too long"
  | fuel + 1, quoted => do
      match backquoted quoted (← Read.letters) with
      | none => Read.faultAtEnd "EOF in backquote substitution"
      | some (text, count) => do
          let line ← Read.line
          match (readCommands fuel).run ⟨text, line, 0⟩ with
          | .error fault => throw fault
          | .ok (commands, rest) =>
              if rest.letters.isEmpty then
                Read.skip count
                return .output commands quoted
              else Read.fault (shownNext rest.letters ++ " unexpected")

def readDollar : Nat → Bool → Read Piece
  | 0, _ => Read.fault "script too long"
  | fuel + 1, quoted => do
      let letters ← Read.letters
      match letters with
      | '(' :: '(' :: rest =>
          match arithmeticLength 0 rest with
          | none => Read.faultAtEnd "Missing '))'"
          | some count => do
              let line ← Read.line
              match (readQuoted fuel).run ⟨rest.take count ++ ['"'], line, 0⟩ with
              | .error fault => throw fault
              | .ok (word, _) => do
                  Read.skip (count + 4)
                  return .arithmetic word quoted
      | '(' :: _ => do
          Read.skip 1
          let commands ← readCommands fuel
          skipSpace
          match ← Read.letters with
          | ')' :: _ => do
              Read.skip 1
              return .output commands quoted
          | letters => Read.fault (shownNext letters ++ " unexpected (expecting \")\")")
      | '{' :: rest => do
          Read.skip 1
          readParameter fuel quoted rest
      | letter :: _ =>
          let name := nameAt letters
          if !name.isEmpty then
            Read.skip name.length
            return .variable (String.ofList name) quoted
          else if isSpecial letter then
            Read.skip 1
            return .variable (String.singleton letter) quoted
          else return .literal "$" quoted
      | [] => return .literal "$" quoted

/-- A variable between braces; the letters are those behind the opening brace. -/
def readParameter : Nat → Bool → List Char → Read Piece
  | 0, _, _ => Read.fault "script too long"
  | fuel + 1, quoted, letters => do
      if isSized letters then
        let name := parameterAt (letters.drop 1)
        Read.skip (name.length + 2)
        return .size (String.ofList name) quoted
      else
        let name := parameterAt letters
        let text := String.ofList name
        let changed (count : Nat) (change : Change) : Read Piece := do
          Read.skip (name.length + count)
          let word ← readBraced fuel quoted
          return .changed text change word quoted
        let malformed : Read Piece := do
          let _ ← readBraced fuel quoted
          return .malformed
        if name.isEmpty then malformed
        else
          match letters.drop name.length with
          | '}' :: _ => do
              Read.skip (name.length + 1)
              return .variable text quoted
          | ':' :: '-' :: _ => changed 2 (.otherwise true)
          | '-' :: _ => changed 1 (.otherwise false)
          | ':' :: '=' :: _ => changed 2 (.assign true)
          | '=' :: _ => changed 1 (.assign false)
          | ':' :: '+' :: _ => changed 2 (.instead true)
          | '+' :: _ => changed 1 (.instead false)
          | ':' :: '?' :: _ => changed 2 (.demand true)
          | '?' :: _ => changed 1 (.demand false)
          | '%' :: '%' :: _ => changed 2 (.dropSuffix true)
          | '%' :: _ => changed 1 (.dropSuffix false)
          | '#' :: '#' :: _ => changed 2 (.dropStart true)
          | '#' :: _ => changed 1 (.dropStart false)
          | _ => malformed

/-- A redirection, if one stands next, of a command that begins on a line. -/
def readRedirection : Nat → Nat → Read (Option Redirection)
  | 0, _ => Read.fault "script too long"
  | fuel + 1, line => do
      let letters ← Read.letters
      let digits := letters.takeWhile Char.isDigit
      let wordBehind (count descriptor : Nat) (kind : RedirectionKind) : Read (Option Redirection) := do
        Read.skip (digits.length + count)
        skipBlanks
        let word ← readWord fuel
        if word.isEmpty then unexpected
        else return some (.mk line descriptor kind word)
      let from_ (standard : Nat) : Nat :=
        if digits.isEmpty then standard
        else digits.foldl (fun value digit => 10 * value + (digit.toNat - '0'.toNat)) 0
      match letters.drop digits.length with
      | '<' :: '<' :: rest => do
          let dropTabs := rest.head? = some '-'
          Read.skip (digits.length + (if dropTabs then 3 else 2))
          skipBlanks
          let mark ← readWord fuel
          if mark.isEmpty then unexpected
          let text := mark.map fun
            | .literal text _ => text
            | _ => ""
          let isQuoted := mark.any fun
            | .literal _ quoted => quoted
            | _ => false
          readHere fuel line (from_ 0) (String.join text).toList dropTabs isQuoted
      | '<' :: '&' :: _ => wordBehind 2 (from_ 0) .copy
      | '<' :: '>' :: _ => wordBehind 2 (from_ 0) .append
      | '<' :: _ => wordBehind 1 (from_ 0) .read
      | '>' :: '>' :: _ => wordBehind 2 (from_ 1) .append
      | '>' :: '&' :: _ => wordBehind 2 (from_ 1) .copy
      | '>' :: '|' :: _ => wordBehind 2 (from_ 1) .write
      | '>' :: _ => wordBehind 1 (from_ 1) .write
      | _ => return none

/-- Takes the text that begins on the next line out of the letters. -/
def readHere : Nat → Nat → Nat → List Char → Bool → Bool → Read (Option Redirection)
  | 0, _, _, _, _, _ => Read.fault "script too long"
  | fuel + 1, line, descriptor, mark, dropTabs, isQuoted => do
      let cursor ← StateT.get
      let letters := cursor.letters
      let sameLine := letters.takeWhile (· != '\n')
      let behind := (letters.dropWhile (· != '\n')).drop 1
      let (body, after) := splitHere mark dropTabs letters.length behind
      let taken := behind.count '\n' - after.count '\n'
      StateT.set ⟨sameLine ++ '\n' :: after, cursor.line, cursor.gone + taken⟩
      if isQuoted then return some (.mk line descriptor .here [.literal (String.ofList body) true])
      else
        let escaped := body.flatMap fun letter => if letter == '"' then ['\\', '"'] else [letter]
        match (readQuoted fuel).run ⟨escaped ++ ['"'], cursor.line, 0⟩ with
        | .error fault => throw fault
        | .ok (word, _) => return some (.mk line descriptor .here (.literal "" true :: word))

def readRedirections : Nat → Nat → Read (List Redirection)
  | 0, _ => Read.fault "script too long"
  | fuel + 1, line => do
      skipBlanks
      match ← readRedirection fuel line with
      | none => return []
      | some redirection => return redirection :: (← readRedirections fuel line)

def readWords : Nat → Read (List Word)
  | 0 => Read.fault "script too long"
  | fuel + 1 => do
      skipBlanks
      let word ← readWord fuel
      if word.isEmpty then return []
      else return word :: (← readWords fuel)

/-- Assignments, words and redirections in any order, assignments only before the words. -/
def readSimple : Nat → Nat → List (String × Word) → List Word → List Redirection → Read Command
  | 0, _, _, _, _ => Read.fault "script too long"
  | fuel + 1, line, assignments, words, redirections => do
      skipBlanks
      match ← readRedirection fuel line with
      | some redirection => readSimple fuel line assignments words (redirections ++ [redirection])
      | none => do
          let letters ← Read.letters
          let name := nameAt letters
          if words.isEmpty && !name.isEmpty && (letters.drop name.length).head? = some '=' then
            Read.skip (name.length + 1)
            let value ← readWord fuel
            readSimple fuel line (assignments ++ [(String.ofList name, value)]) words redirections
          else
            let word ← readWord fuel
            if word.isEmpty then
              if words.isEmpty && assignments.isEmpty && redirections.isEmpty then unexpected
              else if (← Read.letters).head? = some '(' then
                if words.length = 1 && assignments.isEmpty && redirections.isEmpty then
                  Read.skip 1
                  skipBlanks
                  Read.fault (shownNext (← Read.letters) ++ " unexpected (expecting \")\")")
                else unexpected
              else return .simple line assignments words redirections
            else readSimple fuel line assignments (words ++ [word]) redirections

def readBranches : Nat → Read (List (List Command × List Command) × List Command)
  | 0 => Read.fault "script too long"
  | fuel + 1 => do
      let condition ← readBody fuel
      expect "then"
      let body ← readBody fuel
      skipSpace
      match keywordAt? (← Read.letters) with
      | some "elif" => do
          Read.skip 4
          let (branches, otherwise) ← readBranches fuel
          return ((condition, body) :: branches, otherwise)
      | some "else" => do
          Read.skip 4
          let otherwise ← readBody fuel
          expect "fi"
          return ([(condition, body)], otherwise)
      | _ => do
          expect "fi"
          return ([(condition, body)], [])

/-- The patterns of one case, up to their closing bracket. -/
def readPatterns : Nat → Read (List Word)
  | 0 => Read.fault "script too long"
  | fuel + 1 => do
      skipBlanks
      let word ← readWord fuel
      if (← Read.letters).isEmpty then Read.fault "end of file unexpected (expecting \")\")"
      else if word.isEmpty then unexpected
      else
        skipBlanks
        match ← Read.letters with
        | '|' :: _ => do
            Read.skip 1
            return word :: (← readPatterns fuel)
        | ')' :: _ => do
            Read.skip 1
            return [word]
        | letters => Read.fault (shownNext letters ++ " unexpected (expecting \")\")")

def readCases : Nat → Read (List (List Word × List Command))
  | 0 => Read.fault "script too long"
  | fuel + 1 => do
      skipSpace
      let letters ← Read.letters
      if keywordAt? letters = some "esac" then
        Read.skip 4
        return []
      else
        if letters.head? = some '(' then Read.skip 1
        let patterns ← readPatterns fuel
        let body ← readCommands fuel
        skipSpace
        match ← Read.letters with
        | ';' :: ';' :: _ => do
            Read.skip 2
            return (patterns, body) :: (← readCases fuel)
        | letters =>
            if keywordAt? letters = some "esac" then
              Read.skip 4
              return [(patterns, body)]
            else Read.fault (shownNext letters ++ " unexpected (expecting \";;\")")

def readCommand : Nat → Read Command
  | 0 => Read.fault "script too long"
  | fuel + 1 => do
      let letters ← Read.letters
      let line ← Read.line
      let name := nameAt letters
      let behind := (letters.drop name.length).dropWhile isBlank
      match keywordAt? letters, letters with
      | some "if", _ => do
          Read.skip 2
          let (branches, otherwise) ← readBranches fuel
          return .conditional branches otherwise (← readRedirections fuel line)
      | some "while", _ => do
          Read.skip 5
          readLoop fuel line true
      | some "until", _ => do
          Read.skip 5
          readLoop fuel line false
      | some "for", _ => do
          Read.skip 3
          readEach fuel line
      | some "case", _ => do
          Read.skip 4
          skipBlanks
          let word ← readWord fuel
          if word.isEmpty then
            Read.fault (shownNext (← Read.letters) ++ " unexpected (expecting word)")
          expect "in"
          let branches ← readCases fuel
          return .cases word branches (← readRedirections fuel line)
      | some "\x7b", _ => do
          Read.skip 1
          let body ← readBody fuel
          expect "\x7d"
          return .group body (← readRedirections fuel line)
      | some _, _ => unexpected
      | none, '(' :: _ => do
          Read.skip 1
          let body ← readBody fuel
          skipSpace
          match ← Read.letters with
          | ')' :: _ => do
              Read.skip 1
              return .subshell body (← readRedirections fuel line)
          | letters => Read.fault (shownNext letters ++ " unexpected (expecting \")\")")
      | none, _ =>
          match name, behind with
          | _ :: _, '(' :: ')' :: _ => do
              Read.skip (letters.length - behind.length + 2)
              skipSpace
              let body ← readCommand fuel
              return .definition (String.ofList name) body
          | _, _ => readSimple fuel line [] [] []

def readLoop : Nat → Nat → Bool → Read Command
  | 0, _, _ => Read.fault "script too long"
  | fuel + 1, line, onSuccess => do
      let condition ← readBody fuel
      expect "do"
      let body ← readBody fuel
      expect "done"
      return .loop onSuccess condition body (← readRedirections fuel line)

def readEach : Nat → Nat → Read Command
  | 0, _ => Read.fault "script too long"
  | fuel + 1, line => do
      skipBlanks
      let name := nameAt (← Read.letters)
      if name.isEmpty then Read.fault "Bad for loop variable"
      else
        Read.skip name.length
        skipSpace
        let words ←
          if keywordAt? (← Read.letters) = some "in" then do
            Read.skip 2
            let words ← readWords fuel
            skipBlanks
            match ← Read.letters with
            | '\n' :: _ => pure ()
            | ';' :: next :: _ => if next = ';' then unexpected else Read.skip 1
            | ';' :: [] => Read.skip 1
            | _ => unexpected
            pure (some words)
          else do
            skipBlanks
            if (← Read.letters).head? = some ';' then Read.skip 1
            pure none
        expect "do"
        let body ← readBody fuel
        expect "done"
        return .each (String.ofList name) words body (← readRedirections fuel line)

def readStages : Nat → Read (List Command)
  | 0 => Read.fault "script too long"
  | fuel + 1 => do
      skipSpace
      let stage ← readCommand fuel
      skipBlanks
      match ← Read.letters with
      | '|' :: '|' :: _ => return [stage]
      | '|' :: _ => do
          Read.skip 1
          return stage :: (← readStages fuel)
      | _ => return [stage]

def readPipeline : Nat → Read Command
  | 0 => Read.fault "script too long"
  | fuel + 1 => do
      skipSpace
      if keywordAt? (← Read.letters) = some "!" then
        Read.skip 1
        return .pipeline true (← readStages fuel)
      else
        match ← readStages fuel with
        | [stage] => return stage
        | stages => return .pipeline false stages

def readJoined : Nat → Command → Read Command
  | 0, _ => Read.fault "script too long"
  | fuel + 1, left => do
      skipBlanks
      match ← Read.letters with
      | '&' :: '&' :: _ => do
          Read.skip 2
          let right ← readPipeline fuel
          readJoined fuel (.both left right)
      | '|' :: '|' :: _ => do
          Read.skip 2
          let right ← readPipeline fuel
          readJoined fuel (.either left right)
      | _ => return left

/-- A command with what separates it from the next one. -/
def readSeparated : Nat → Read Command
  | 0 => Read.fault "script too long"
  | fuel + 1 => do
      let command ← readJoined fuel (← readPipeline fuel)
      skipBlanks
      match ← Read.letters with
      | ';' :: ';' :: _ => return command
      | ';' :: _ => do
          Read.skip 1
          return command
      | '&' :: _ => do
          Read.skip 1
          return .background command
      | letters =>
          let ends :=
            match letters with
            | [] => true
            | '\n' :: _ => true
            | ')' :: _ => true
            | _ => (keywordAt? letters).any closers.contains
          if ends then return command else unexpected

/-- Commands where there must be one, unless the script ends. -/
def readBody : Nat → Read (List Command)
  | 0 => Read.fault "script too long"
  | fuel + 1 => do
      let commands ← readCommands fuel
      if commands.isEmpty && !(← Read.letters).isEmpty then unexpected else return commands

/-- Commands up to what closes the list; that itself is left to be read. -/
def readCommands : Nat → Read (List Command)
  | 0 => Read.fault "script too long"
  | fuel + 1 => do
      let before ← Read.letters
      skipSpace
      let letters ← Read.letters
      let closed :=
        match letters with
        | [] => true
        | ')' :: _ => true
        | ';' :: ';' :: _ => true
        | _ => (keywordAt? letters).any closers.contains
      if closed then return []
      else
        let command ← readSeparated fuel
        if (← Read.letters).length < before.length then return command :: (← readCommands fuel)
        else unexpected

end

def readLine : Nat → Nat → Read (List Command)
  | 0, _ => return []
  | count + 1, fuel => do
      skipBlanks
      match ← Read.letters with
      | [] => return []
      | '\n' :: _ => return []
      | _ => do
          let command ← readSeparated fuel
          return command :: (← readLine count fuel)

def readLines (fuel : Nat) : Nat → Cursor → Script
  | 0, _ => ⟨[], none⟩
  | count + 1, cursor =>
      match (do skipSpace; return (← Read.letters).isEmpty : Read Bool).run cursor with
      | .error fault => ⟨[], some fault⟩
      | .ok (true, _) => ⟨[], none⟩
      | .ok (false, cursor) =>
          match (readLine fuel fuel).run cursor with
          | .error fault => ⟨[], some fault⟩
          | .ok (commands, rest) =>
              let script := readLines fuel count rest
              ⟨commands :: script.lines, script.fault⟩

end Reader

/-- Reads a script, as far as it can be read. -/
def Script.read (text : String) : Script :=
  let fuel := 2 * text.length + 10
  Reader.readLines fuel fuel ⟨text.toList, 1, 0⟩

end Groundwork.Rehearsal
