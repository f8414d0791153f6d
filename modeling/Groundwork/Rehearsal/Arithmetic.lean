import Groundwork.Rehearsal.Format
import Groundwork.Vars

namespace Groundwork.Rehearsal.Arithmetic

/-! Arithmetic in scripts: whole numbers of 64 bits, variables, and the usual signs.

Of `&&`, `||` and a choice only the operands that decide are evaluated, so only their assignments count.
-/

inductive Sign where
  | or
  | and
  | bitOr
  | bitXor
  | bitAnd
  | equal
  | unequal
  | less
  | atMost
  | greater
  | atLeast
  | shiftLeft
  | shiftRight
  | add
  | subtract
  | multiply
  | divide
  | remainder
  deriving DecidableEq, Repr

/-- Signs that bind more strongly have a higher rank. -/
def Sign.rank : Sign → Nat
  | .or => 1
  | .and => 2
  | .bitOr => 3
  | .bitXor => 4
  | .bitAnd => 5
  | .equal | .unequal => 6
  | .less | .atMost | .greater | .atLeast => 7
  | .shiftLeft | .shiftRight => 8
  | .add | .subtract => 9
  | .multiply | .divide | .remainder => 10

inductive Lead where
  | plus
  | minus
  | not
  | complement
  deriving DecidableEq, Repr

inductive Term where
  | number (value : Int64)
  | named (name : String)
  | led (lead : Lead) (term : Term)
  | joined (sign : Sign) (left right : Term)
  | choice (condition first second : Term)
  /-- Gives a variable a value, or joins the value to the one that it has. -/
  | assigned (name : String) (sign : Option Sign) (term : Term)
  deriving Repr

inductive Fault where
  | noOperand
  | noBracket
  | noColon
  | noEnd
  | noDivisor
  | noNumber (value : String)
  deriving DecidableEq, Repr

def Fault.message (expression : String) (fault : Fault) : String :=
  let about (text : String) : String := "arithmetic expression: " ++ text ++ ": \"" ++ expression ++ "\""
  match fault with
  | .noOperand => about "expecting primary"
  | .noBracket => about "expecting ')'"
  | .noColon => about "expecting ':'"
  | .noEnd => about "expecting EOF"
  | .noDivisor => about "division by zero"
  | .noNumber value => "Illegal number: " ++ value

/-- The sign at the head of the letters, and how many letters it takes up. -/
def signAt? : List Char → Option (Sign × Nat)
  | '|' :: '|' :: _ => some (.or, 2)
  | '&' :: '&' :: _ => some (.and, 2)
  | '=' :: '=' :: _ => some (.equal, 2)
  | '!' :: '=' :: _ => some (.unequal, 2)
  | '<' :: '=' :: _ => some (.atMost, 2)
  | '>' :: '=' :: _ => some (.atLeast, 2)
  | '<' :: '<' :: _ => some (.shiftLeft, 2)
  | '>' :: '>' :: _ => some (.shiftRight, 2)
  | '|' :: _ => some (.bitOr, 1)
  | '^' :: _ => some (.bitXor, 1)
  | '&' :: _ => some (.bitAnd, 1)
  | '<' :: _ => some (.less, 1)
  | '>' :: _ => some (.greater, 1)
  | '+' :: _ => some (.add, 1)
  | '-' :: _ => some (.subtract, 1)
  | '*' :: _ => some (.multiply, 1)
  | '/' :: _ => some (.divide, 1)
  | '%' :: _ => some (.remainder, 1)
  | _ => none

def Sign.canAssign : Sign → Bool
  | .or | .and | .equal | .unequal | .less | .atMost | .greater | .atLeast => false
  | _ => true

/-- The assignment at the head of the letters, and how many letters its sign takes up. -/
def assignmentAt? (letters : List Char) : Option (Option Sign × Nat) :=
  match letters with
  | '=' :: '=' :: _ => none
  | '=' :: _ => some (none, 1)
  | _ =>
      match signAt? letters with
      | some (sign, count) =>
          if sign.canAssign && (letters.drop count).head? = some '=' then some (some sign, count + 1)
          else none
      | none => none

def skipBlanks (letters : List Char) : List Char :=
  letters.dropWhile fun letter => letter = ' ' || letter = '\t' || letter = '\n'

def nameAt (letters : List Char) : List Char :=
  match letters with
  | first :: _ => if Vars.isNameStart first then letters.takeWhile Vars.isNameLetter else []
  | [] => []

def largest : Nat := 9223372036854775807

/-- The number at the head of the letters, and how many letters it takes up.  A zero in front makes it
octal, and `0x` hexadecimal; a number that is too large becomes the largest one. -/
def numberAt (letters : List Char) : Nat × Nat :=
  let decimal : Nat × Nat :=
    let digits := letters.takeWhile Char.isDigit
    (Nat.ofDigitChars 10 digits 0, digits.length)
  let (value, count) := match letters with
    | '0' :: mark :: rest =>
        let digits := rest.takeWhile fun digit => (Text.Utf8.nibble? digit).isSome
        if (mark = 'x' || mark = 'X') && !digits.isEmpty then
          (digits.foldl (fun value digit => 16 * value + ((Text.Utf8.nibble? digit).getD 0).toNat) 0,
            digits.length + 2)
        else
          let digits := (mark :: rest).takeWhile Format.isOctal
          (Format.octalValue digits, digits.length + 1)
    | _ => decimal
  (min value largest, count)

/-- The value of a variable; nothing counts as zero. -/
def valueOf? (text : String) : Option Int64 :=
  let trimmed := (skipBlanks (skipBlanks text.toList).reverse).reverse
  let (negative, digits) := match trimmed with
    | '-' :: rest => (true, rest)
    | '+' :: rest => (false, rest)
    | rest => (false, rest)
  let (value, count) := numberAt digits
  if trimmed.isEmpty then some 0
  else if count = 0 || count < digits.length then none
  else some (Int64.ofInt (if negative then -(value : Int) else value))

mutual

def readAssignment : Nat → List Char → Except Fault (Term × List Char)
  | 0, _ => .error .noOperand
  | fuel + 1, letters =>
      let rest := skipBlanks letters
      let name := nameAt rest
      let behind := skipBlanks (rest.drop name.length)
      match if name.isEmpty then none else assignmentAt? behind with
      | some (sign, count) =>
          match readAssignment fuel (behind.drop count) with
          | .ok (term, rest) => .ok (.assigned (String.ofList name) sign term, rest)
          | .error fault => .error fault
      | none => readChoice fuel rest

def readChoice : Nat → List Char → Except Fault (Term × List Char)
  | 0, _ => .error .noOperand
  | fuel + 1, letters =>
      match readJoined fuel 0 letters with
      | .error fault => .error fault
      | .ok (condition, '?' :: rest) =>
          match readAssignment fuel rest with
          | .error fault => .error fault
          | .ok (first, ':' :: rest) =>
              match readChoice fuel rest with
              | .error fault => .error fault
              | .ok (second, rest) => .ok (.choice condition first second, rest)
          | .ok _ => .error .noColon
      | .ok (term, rest) => .ok (term, rest)

/-- Takes in signs of a rank above `rank`. -/
def readJoined : Nat → Nat → List Char → Except Fault (Term × List Char)
  | 0, _, _ => .error .noOperand
  | fuel + 1, rank, letters =>
      match readOperand fuel letters with
      | .ok (term, rest) => readMore fuel rank term rest
      | .error fault => .error fault

def readMore : Nat → Nat → Term → List Char → Except Fault (Term × List Char)
  | 0, _, _, _ => .error .noOperand
  | fuel + 1, rank, term, letters =>
      let rest := skipBlanks letters
      match signAt? rest with
      | some (sign, count) =>
          if sign.rank ≤ rank then .ok (term, rest)
          else
            match readJoined fuel sign.rank (rest.drop count) with
            | .ok (right, rest) => readMore fuel rank (.joined sign term right) rest
            | .error fault => .error fault
      | none => .ok (term, rest)

/-- A number, a variable, or something in brackets, with the signs before it. -/
def readOperand : Nat → List Char → Except Fault (Term × List Char)
  | 0, _ => .error .noOperand
  | fuel + 1, letters =>
      let rest := skipBlanks letters
      let led (lead : Lead) (rest : List Char) : Except Fault (Term × List Char) :=
        (readOperand fuel rest).map fun (term, rest) => (.led lead term, rest)
      match rest with
      | '(' :: rest =>
          match readAssignment fuel rest with
          | .ok (term, ')' :: rest) => .ok (term, rest)
          | .ok _ => .error .noBracket
          | .error fault => .error fault
      | '+' :: rest => led .plus rest
      | '-' :: rest => led .minus rest
      | '!' :: rest => led .not rest
      | '~' :: rest => led .complement rest
      | _ =>
          let name := nameAt rest
          let (value, count) := numberAt rest
          if !name.isEmpty then .ok (.named (String.ofList name), rest.drop name.length)
          else if count = 0 then .error .noOperand
          else .ok (.number (Int64.ofNat value), rest.drop count)

end

def read (text : String) : Except Fault Term :=
  match readAssignment (6 * text.length + 6) text.toList with
  | .ok (term, rest) => if (skipBlanks rest).isEmpty then .ok term else .error .noEnd
  | .error fault => .error fault

def ofBool (value : Bool) : Int64 := if value then 1 else 0

def Sign.apply (sign : Sign) (left right : Int64) : Except Fault Int64 :=
  match sign with
  | .or => .ok (ofBool (left != 0 || right != 0))
  | .and => .ok (ofBool (left != 0 && right != 0))
  | .bitOr => .ok (left ||| right)
  | .bitXor => .ok (left ^^^ right)
  | .bitAnd => .ok (left &&& right)
  | .equal => .ok (ofBool (left == right))
  | .unequal => .ok (ofBool (left != right))
  | .less => .ok (ofBool (left < right))
  | .atMost => .ok (ofBool (left ≤ right))
  | .greater => .ok (ofBool (right < left))
  | .atLeast => .ok (ofBool (right ≤ left))
  | .shiftLeft => .ok (left <<< right)
  | .shiftRight => .ok (left >>> right)
  | .add => .ok (left + right)
  | .subtract => .ok (left - right)
  | .multiply => .ok (left * right)
  | .divide => if right = 0 then .error .noDivisor else .ok (left / right)
  | .remainder => if right = 0 then .error .noDivisor else .ok (left % right)

def Lead.apply (lead : Lead) (value : Int64) : Int64 :=
  match lead with
  | .plus => value
  | .minus => -value
  | .not => ofBool (value == 0)
  | .complement => ~~~value

/-- Assignments, the latest one first. -/
abbrev Assignments := List (String × Int64)

def lookup (find : String → Option String) (assignments : Assignments) (name : String) :
    Except Fault Int64 :=
  match assignments.lookup name with
  | some value => .ok value
  | none =>
      let text := (find name).getD ""
      match valueOf? text with
      | some value => .ok value
      | none => .error (.noNumber text)

/-- The value of a term, with its assignments added to those before. -/
def Term.evaluate (find : String → Option String) :
    Term → Assignments → Except Fault (Int64 × Assignments)
  | .number value, assignments => .ok (value, assignments)
  | .named name, assignments => do return (← lookup find assignments name, assignments)
  | .led lead term, assignments => do
      let (value, assignments) ← term.evaluate find assignments
      return (lead.apply value, assignments)
  | .joined sign left right, assignments => do
      let (first, assignments) ← left.evaluate find assignments
      if sign = .or && first != 0 then return (1, assignments)
      else if sign = .and && first == 0 then return (0, assignments)
      else
        let (second, assignments) ← right.evaluate find assignments
        return (← sign.apply first second, assignments)
  | .choice condition first second, assignments => do
      let (value, assignments) ← condition.evaluate find assignments
      if value != 0 then first.evaluate find assignments else second.evaluate find assignments
  | .assigned name sign term, assignments => do
      let (value, assignments) ← term.evaluate find assignments
      match sign with
      | none => return (value, (name, value) :: assignments)
      | some sign => do
          let value ← sign.apply (← lookup find assignments name) value
          return (value, (name, value) :: assignments)

/-- The value of an expression and its assignments, the first one first. -/
def evaluate (find : String → Option String) (text : String) : Except Fault (Int64 × Assignments) := do
  let (value, assignments) ← (← read text).evaluate find []
  return (value, assignments.reverse)

end Groundwork.Rehearsal.Arithmetic
