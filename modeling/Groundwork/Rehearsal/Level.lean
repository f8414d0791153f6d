import Groundwork.Rehearsal.Arithmetic
import Groundwork.Rehearsal.Glob
import Groundwork.Rehearsal.Process
import Groundwork.Rehearsal.Program
import Groundwork.Rehearsal.Reader

namespace Groundwork.Rehearsal

/-! What one level of the interpreter may ask of the level below it.

Scripts hold words that hold scripts again, and a program may start programs.  Each step inwards goes one
level down; at the lowest level nothing ever ends.
-/

/-- A letter of an expanded word, or what else decides where words begin and end. -/
inductive Token where
  | letter (value : Char) (quoted : Bool) (fromValue : Bool)
  /-- Quotes with nothing between them still make a word. -/
  | mark
  /-- One word ends here and another begins. -/
  | boundary
  deriving DecidableEq

structure Level where
  commands : List Command → Process → Process
  tokens : Word → Process → List Token × Process
  /-- Runs a program in an environment, as a child; gives what has become of the child. -/
  run : Executable → List (String × String) → Process → Process

namespace Level

def stall (process : Process) : Process :=
  { process with flow := .stopped .timedOut }

def lowest : Level :=
  ⟨fun _ => stall, fun _ process => ([], stall process), fun _ _ => stall⟩

/-- Runs a script line by line; what is wrong with a line shows after those before it have run.  A script
without commands succeeds. -/
def runScript (next : Level) (script : Script) (process : Process) : Process :=
  let ready := if script.lines.isEmpty then process.withStatus 0 else process
  let ran := script.lines.foldl
    (fun process line => if process.isOnward then next.commands line process else process) ready
  match ran.flow, script.fault with
  | .onward, some (line, text) => (ran.complainAt line text).leave 2
  | _, _ => ran

def finish (next : Level) (process : Process) : Process :=
  if process.finalScript.isEmpty then process
  else
    match process.flow with
    | .stopped _ | .leaving (.signal _) => process
    | _ =>
        let exit := process.exit
        let ran := next.runScript (Script.read process.finalScript)
          { process with flow := .onward, status := exit.number, finalScript := "" }
        if ran.isOnward then { ran with flow := .leaving exit } else ran

/-- Does something in a copy of the shell, which comes to an end of its own. -/
def runApart (next : Level) (act : Process → Process) (process : Process) : Process :=
  next.finish (act { process with finalScript := "" })

end Level

namespace Expansion

def lettersOf (text : String) (quoted : Bool) : List Token :=
  text.toList.map fun letter => .letter letter quoted true

def separator (process : Process) : List Char :=
  ((process.value? "IFS").getD " \t\n").toList

/-- The arguments of the script, each a word of its own. -/
def argumentTokens (process : Process) (quoted : Bool) : List Token :=
  match process.arguments with
  | [] => []
  | first :: rest =>
      let word (text : String) : List Token := (if quoted then [.mark] else []) ++ lettersOf text quoted
      word first ++ rest.flatMap fun text => .boundary :: word text

def valueOf (process : Process) (name : String) : Option String :=
  match name with
  | "?" => some (toString process.status)
  | "$" => some (toString process.number)
  | "PPID" => some (toString process.parentNumber)
  | "#" => some (toString process.arguments.length)
  | "!" => some ""
  | "-" => some (if process.strict then "e" else "")
  | "0" => some process.name
  | "@" | "*" => some (" ".intercalate process.arguments)
  | _ =>
      match Decimal.readDigits? name.toList with
      | some index => process.arguments[index - 1]?
      | none => process.value? name

def plainValue (process : Process) (name : String) : String × Process :=
  match valueOf process name with
  | some value => (value, process)
  | none =>
      if process.demanding && name ≠ "@" && name ≠ "*" then
        ("", (process.complainAt process.line (name ++ ": parameter not set")).leave 2)
      else ("", process)

def textOfTokens (tokens : List Token) : String :=
  String.ofList (tokens.filterMap fun
    | .letter value _ _ => some value
    | .boundary => some ' '
    | .mark => none)

def fieldOfTokens (tokens : List Token) : Field :=
  tokens.filterMap fun
    | .letter value quoted _ => some ⟨value, quoted⟩
    | .boundary => some ⟨' ', true⟩
    | .mark => none

/-- Drops the shortest or longest start that a pattern covers. -/
def dropStart (items : List Glob.Item) (longest : Bool) (text : List Char) : List Char :=
  let counts := List.range (text.length + 1)
  let fitting := counts.filter fun count => Glob.covers items (text.take count)
  match if longest then fitting.getLast? else fitting.head? with
  | some count => text.drop count
  | none => text

def dropSuffix (items : List Glob.Item) (longest : Bool) (text : List Char) : List Char :=
  let counts := List.range (text.length + 1)
  let fitting := counts.filter fun count => Glob.covers items (text.drop (text.length - count))
  match if longest then fitting.getLast? else fitting.head? with
  | some count => text.take (text.length - count)
  | none => text

/-- Bytes as a word takes them in: text without the line feeds at its end and without NUL. -/
def wordOfBytes (bytes : ByteArray) : String :=
  let letters := (Text.Utf8.readReplacing bytes).toList.filter (· ≠ '\x00')
  String.ofList (letters.reverse.dropWhile (· = '\n')).reverse

def outputOf (next : Level) (script : List Command) (process : Process) : String × Process :=
  let (copy, number) := process.addBuffer
  let ran := next.runApart (next.commands script)
    ({ copy with outputStatus := none, tested := false }.setChannel 1 (.buffer number))
  let (ran, bytes) := ran.takeBuffer
  let after := process.rejoin ran
  (wordOfBytes bytes, { after with status := process.status, outputStatus := some after.status })

def changedTokens (next : Level) (name : String) (change : Change) (word : Word) (quoted : Bool)
    (process : Process) : List Token × Process :=
  let value := valueOf process name
  let isMissing (alsoEmpty : Bool) : Bool := value.isNone || (alsoEmpty && value = some "")
  let own : List Token :=
    if name = "@" then argumentTokens process quoted else lettersOf (value.getD "") quoted
  let dropping (drop : List Glob.Item → List Char → List Char) : List Token × Process :=
    let (tokens, process) := next.tokens word process
    let rest := drop (Glob.items (fieldOfTokens tokens)) (value.getD "").toList
    (lettersOf (String.ofList rest) quoted, process)
  match change with
  | .otherwise alsoEmpty => if isMissing alsoEmpty then next.tokens word process else (own, process)
  | .instead alsoEmpty => if isMissing alsoEmpty then ([], process) else next.tokens word process
  | .assign alsoEmpty =>
      if isMissing alsoEmpty then
        let (tokens, process) := next.tokens word process
        (tokens, process.setVariable name (textOfTokens tokens))
      else (own, process)
  | .demand alsoEmpty =>
      if isMissing alsoEmpty then
        let (tokens, process) := next.tokens word process
        let text := textOfTokens tokens
        let complaint := if text.isEmpty then "parameter not set" else text
        ([], (process.complainAt process.line (name ++ ": " ++ complaint)).leave 2)
      else (own, process)
  | .dropSuffix longest => dropping (dropSuffix · longest)
  | .dropStart longest => dropping (dropStart · longest)

def pieceTokens (next : Level) (piece : Piece) (process : Process) : List Token × Process :=
  match piece with
  | .malformed => ([], (process.complainAt process.line "Bad substitution").leave 2)
  | .literal text quoted =>
      if quoted && text.isEmpty then ([.mark], process)
      else (text.toList.map fun letter => .letter letter quoted false, process)
  | .variable name quoted =>
      if name = "@" || (name = "*" && !quoted) then (argumentTokens process quoted, process)
      else
        let (value, process) := plainValue process name
        (lettersOf value quoted, process)
  | .changed name change word quoted => changedTokens next name change word quoted process
  | .size name quoted =>
      let (value, process) := plainValue process name
      (lettersOf (toString value.length) quoted, process)
  | .output script quoted =>
      let (text, process) := outputOf next script process
      (lettersOf text quoted, process)
  | .arithmetic word quoted =>
      let (tokens, process) := next.tokens word process
      match Arithmetic.evaluate (valueOf process) (textOfTokens tokens) with
      | .ok (value, assignments) =>
          (lettersOf (toString value) quoted, assignments.foldl (fun process (name, value) =>
            process.setVariable name (toString value)) process)
      | .error fault =>
          ([], (process.complainAt process.line (fault.message (textOfTokens tokens))).leave 2)

def piecesTokens (next : Level) : Word → Process → List Token × Process
  | [], process => ([], process)
  | piece :: rest, process =>
      let (first, process) := pieceTokens next piece process
      if process.isOnward then
        let (others, process) := piecesTokens next rest process
        (first ++ others, process)
      else ([], process)

/-- Puts the home directory in the place of a tilde at the head of a word. -/
def withHome (process : Process) (word : Word) : Word :=
  match word with
  | [.literal "~" false] => [.literal ((process.value? "HOME").getD "~") true]
  | .literal "~" false :: .literal "/" false :: rest =>
      .literal ((process.value? "HOME").getD "~") true :: .literal "/" false :: rest
  | _ => word

/-- Quotes around all arguments make no word when there are none. -/
def withoutIdleQuotes (process : Process) (word : Word) : Word :=
  match word with
  | [.literal "" true, .variable "@" true] => if process.arguments.isEmpty then [] else word
  | _ => word

def wordTokens (next : Level) (word : Word) (process : Process) : List Token × Process :=
  piecesTokens next (withoutIdleQuotes process (withHome process word)) process

/-- Splits at the separators that came out of values.  `current` is the word under way. -/
def fieldsFrom (separators : List Char) : Option Field → List Token → List Field
  | none, [] => []
  | some field, [] => [field]
  | current, .boundary :: rest => (current.toList) ++ fieldsFrom separators none rest
  | current, .mark :: rest => fieldsFrom separators (some (current.getD [])) rest
  | current, .letter value quoted fromValue :: rest =>
      if fromValue && !quoted && separators.contains value then
        current.toList ++ fieldsFrom separators none rest
      else fieldsFrom separators (some (current.getD [] ++ [⟨value, quoted⟩])) rest

/-- The words that come of words: split, and with file name patterns expanded. -/
def expandWords (next : Level) : List Word → Process → List String × Process
  | [], process => ([], process)
  | word :: rest, process =>
      let (tokens, process) := wordTokens next word process
      if process.isOnward then
        let fields := fieldsFrom (separator process) none tokens
        let texts := fields.flatMap (Glob.expand process.store)
        let (others, process) := expandWords next rest process
        (texts ++ others, process)
      else ([], process)

def expandText (next : Level) (word : Word) (process : Process) : String × Process :=
  let (tokens, process) := wordTokens next word process
  (textOfTokens tokens, process)

end Expansion

end Groundwork.Rehearsal
