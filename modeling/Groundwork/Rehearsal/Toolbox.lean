import Groundwork.Rehearsal.Condition
import Groundwork.Rehearsal.FileTools
import Groundwork.Rehearsal.Format
import Groundwork.Rehearsal.TextTools

namespace Groundwork.Rehearsal

/-! The tools that a rehearsal knows. -/

namespace Toolbox

def succeed : Tool := fun call => call.succeed

def fail : Tool := fun call => call.status 1

/-- Nanoseconds that a text such as `0.2` or `5m` stands for. -/
def nanosecondsOf? (text : String) : Option Nat :=
  let letters := text.toList
  let (digits, unit) := match letters.getLast? with
    | some 's' => (letters.dropLast, 1)
    | some 'm' => (letters.dropLast, 60)
    | some 'h' => (letters.dropLast, 3600)
    | some 'd' => (letters.dropLast, 86400)
    | _ => (letters, 1)
  let whole := digits.takeWhile Char.isDigit
  let fraction := match digits.drop whole.length with
    | '.' :: rest => some rest
    | [] => some []
    | _ => none
  match fraction with
  | some fraction =>
      if (whole.isEmpty && fraction.isEmpty) || !fraction.all Char.isDigit then none
      else
        let places := (fraction.take 9)
        let part := Nat.ofDigitChars 10 places 0 * Nat.pow 10 (9 - places.length)
        some ((Nat.ofDigitChars 10 whole 0 * Duration.second + part) * unit)
  | none => none

def sleep : Tool := fun call =>
  match call.operands.map nanosecondsOf? with
  | [] => call.refuseWithHint 1 "missing operand"
  | times =>
      match call.operands.find? (fun text => (nanosecondsOf? text).isNone) with
      | some text => call.refuseWithHint 1 ("invalid time interval '" ++ text ++ "'")
      | none => { call.succeed with delay := (times.filterMap id).foldl (· + ·) 0 }

def printEnvironment : Tool := fun call =>
  match call.operands with
  | [] => call.printLines (call.environment.map fun (name, value) => name ++ "=" ++ value)
  | names =>
      let values := names.filterMap fun name => Table.get? name call.environment
      { call.printLines values with status := if values.length = names.length then 0 else 1 }

def sequence : Tool := fun call =>
  let numbers := call.arguments.filterMap fun text => Decimal.readInteger? text.toList
  let (first, step, last) : Int × Int × Int := match numbers with
    | [last] => (1, 1, last)
    | [first, last] => (first, 1, last)
    | first :: step :: last :: _ => (first, step, last)
    | [] => (1, 1, 0)
  if step = 0 then call.refuse 1 "invalid Zero increment value: '0'"
  else
    let count := ((last - first) / step + 1).toNat
    call.printLines ((List.range count).map fun (index : Nat) => toString (first + step * (index : Int)))

def printUser : Tool := fun call => call.printLines ["root"]

def printIdentity : Tool := fun call =>
  if call.flags.contains 'u' || call.flags.contains 'g' then
    call.printLines [if call.flags.contains 'n' then "root" else "0"]
  else call.printLines ["uid=0(root) gid=0(root) groups=0(root)"]

def printSystem : Tool := fun call => call.printLines ["Linux"]

/-- The clock of a rehearsal always shows the same time. -/
def printDate : Tool := fun call => call.printLines ["Thu Jan  1 00:00:00 UTC 1970"]

def compareFiles : Tool := fun call =>
  match call.operands with
  | left :: right :: _ =>
      match call.bytesOf left, call.bytesOf right with
      | .ok leftBytes, .ok rightBytes => call.status (if leftBytes.toList = rightBytes.toList then 0 else 1)
      | .error cause, _ => call.refuse 2 (left ++ ": " ++ Call.attempt.reason cause)
      | _, .error cause => call.refuse 2 (right ++ ": " ++ Call.attempt.reason cause)
  | _ => call.refuse 2 "missing operand"

end Toolbox

open Toolbox in
def tools : List (String × Tool) :=
  [("true", succeed), ("false", fail), ("sleep", sleep), ("echo", Format.echo),
    ("printf", Format.printFormatted), ("test", Condition.test), ("[", Condition.test),
    ("printenv", printEnvironment), ("seq", sequence), ("whoami", printUser), ("id", printIdentity),
    ("uname", printSystem), ("date", printDate), ("sync", succeed), ("cmp", compareFiles), ("diff", compareFiles),
    ("cat", TextTools.concatenate), ("head", TextTools.head), ("tail", TextTools.tail),
    ("wc", TextTools.count), ("sort", TextTools.sort), ("uniq", TextTools.unique),
    ("cut", TextTools.cut), ("tr", TextTools.transliterate), ("tee", TextTools.tee),
    ("grep", TextTools.grep), ("egrep", TextTools.grep), ("fgrep", TextTools.grep),
    ("sed", TextTools.edit), ("ls", FileTools.list), ("touch", FileTools.touch),
    ("mkdir", FileTools.makeDirectory), ("rmdir", FileTools.removeDirectory),
    ("rm", FileTools.remove), ("cp", FileTools.copy), ("mv", FileTools.move), ("ln", FileTools.link),
    ("chmod", FileTools.changeMode), ("pwd", FileTools.printDirectory),
    ("basename", FileTools.printBaseName), ("dirname", FileTools.printDirectoryName),
    ("readlink", FileTools.readLink), ("realpath", FileTools.realPath)]

/-- Programs that the interpreter itself carries out. -/
def shells : List String := ["sh", "dash", "bash"]

def starters : List String := ["env"]

/-- How the file of a program begins that is no script. -/
def imageMark : String := "\x7fELF "

def imageOf (name : String) : ByteArray :=
  (imageMark ++ name).toUTF8

def imageName? (bytes : ByteArray) : Option String :=
  match Text.Utf8.read? bytes with
  | none => none
  | some text =>
      if imageMark.toList.isPrefixOf text.toList then
        some (String.ofList (text.toList.drop imageMark.length))
      else none

end Groundwork.Rehearsal
