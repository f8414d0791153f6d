import Groundwork.Store.Directories
import Groundwork.Table

namespace Groundwork.Rehearsal

/-! Tools: programs that look at their arguments, input and files, and are done. -/

structure Call where
  name : String
  arguments : List String
  environment : List (String × String)
  input : ByteArray
  store : Store

structure Effect where
  status : Nat
  printed : ByteArray
  complained : ByteArray
  store : Store
  /-- Nanoseconds that it has slept. -/
  delay : Nat

abbrev Tool := Call → Effect

namespace Call

def succeed (call : Call) : Effect :=
  ⟨0, .empty, .empty, call.store, 0⟩

def status (call : Call) (number : Nat) : Effect :=
  { call.succeed with status := number }

def print (call : Call) (text : String) : Effect :=
  { call.succeed with printed := text.toUTF8 }

def printLines (call : Call) (lines : List String) : Effect :=
  call.print (String.join (lines.map (· ++ "\n")))

def refuse (call : Call) (number : Nat) (text : String) : Effect :=
  { call.succeed with status := number, complained := (call.name ++ ": " ++ text ++ "\n").toUTF8 }

def refuseWithHint (call : Call) (number : Nat) (text : String) : Effect :=
  call.refuse number (text ++ "\nTry '" ++ call.name ++ " --help' for more information.")

end Call

namespace Effect

def andThen (effect : Effect) (next : Store → Effect) : Effect :=
  let later := next effect.store
  ⟨max effect.status later.status, effect.printed ++ later.printed,
    effect.complained ++ later.complained, later.store, effect.delay + later.delay⟩

end Effect

namespace Call

/-- Does something for every operand, going on after a failure. -/
def each (call : Call) (operands : List String) (act : Call → String → Effect) : Effect :=
  operands.foldl
    (fun effect operand => effect.andThen fun store => act { call with store := store } operand)
    call.succeed

def attempt (call : Call) (complaint : String) (operation : Store → Except IoCause Store) : Effect :=
  match operation call.store with
  | .ok store => { call.succeed with store := store }
  | .error cause => call.refuse 1 (complaint ++ ": " ++ reason cause)
where
  reason : IoCause → String
    | .system number => IoCause.systemText number
    | cause => cause.message

/-- The flag letters among the arguments, and the operands.  A double dash ends the flags. -/
def flagsAndOperands : List String → List Char × List String
  | [] => ([], [])
  | argument :: rest =>
      if argument = "--" then ([], rest)
      else
        let (flags, operands) := flagsAndOperands rest
        match argument.toList with
        | '-' :: '-' :: _ => (flags, operands)
        | '-' :: letter :: letters => (letter :: letters ++ flags, operands)
        | _ => (flags, argument :: operands)

def flags (call : Call) : List Char :=
  (flagsAndOperands call.arguments).1

def operands (call : Call) : List String :=
  (flagsAndOperands call.arguments).2

/-- Whether a flag is among the arguments, as a letter or by its long name. -/
def has (call : Call) (letter : Char) (long : String) : Bool :=
  call.flags.contains letter || call.arguments.contains ("--" ++ long)

/-- Splits off options that take a value, given as letters; gives the other arguments, too. -/
def takeValues (letters : List Char) : List String → List (Char × String) × List String
  | [] => ([], [])
  | [argument] =>
      match argument.toList with
      | '-' :: letter :: first :: more =>
          if letters.contains letter then ([(letter, String.ofList (first :: more))], [])
          else ([], [argument])
      | _ => ([], [argument])
  | argument :: next :: rest =>
      match argument.toList with
      | ['-', letter] =>
          if letters.contains letter then
            let (values, others) := takeValues letters rest
            ((letter, next) :: values, others)
          else
            let (values, others) := takeValues letters (next :: rest)
            (values, argument :: others)
      | '-' :: letter :: first :: more =>
          let (values, others) := takeValues letters (next :: rest)
          if letters.contains letter then ((letter, String.ofList (first :: more)) :: values, others)
          else (values, argument :: others)
      | _ =>
          let (values, others) := takeValues letters (next :: rest)
          (values, argument :: others)

/-- The bytes of a file; a dash stands for the input. -/
def bytesOf (call : Call) (operand : String) : Except IoCause ByteArray :=
  if operand = "-" then .ok call.input else call.store.readBytes operand

/-- How a filter names what it cannot do with an operand. -/
abbrev Naming := String → IoCause → String

/-- Lets a filter work on each operand in turn, or on the input when there is none. -/
def filterNaming (call : Call) (name : Naming) (operands : List String) (act : ByteArray → ByteArray) :
    Effect :=
  call.each (if operands.isEmpty then ["-"] else operands) fun call operand =>
    match call.bytesOf operand with
    | .ok bytes => { call.succeed with printed := act bytes }
    | .error cause => call.refuse 1 (name operand cause ++ ": " ++ attempt.reason cause)

def filter (call : Call) (operands : List String) (act : ByteArray → ByteArray) : Effect :=
  call.filterNaming (fun operand _ => operand) operands act

def filterAll (call : Call) (operands : List String) (act : ByteArray → ByteArray) : Effect :=
  let gathered := call.filter operands id
  { gathered with printed := act gathered.printed }

end Call

end Groundwork.Rehearsal
