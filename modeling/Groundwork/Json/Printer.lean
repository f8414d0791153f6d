import Groundwork.Json.Value
import Groundwork.Decimal.Shortest

namespace Groundwork.Json

/-! JSON values as text, on one line or indented by two blanks a level. -/

def hexDigit (value : Nat) : Char := Nat.digitChar value

def escapeLetter (letter : Char) : List Char :=
  match letter with
  | '"' => ['\\', '"']
  | '\\' => ['\\', '\\']
  | '\n' => ['\\', 'n']
  | '\r' => ['\\', 'r']
  | '\t' => ['\\', 't']
  | '\x08' => ['\\', 'b']
  | '\x0c' => ['\\', 'f']
  | _ =>
      if letter.toNat < 0x20 then
        ['\\', 'u', '0', '0', hexDigit (letter.toNat / 16), hexDigit (letter.toNat % 16)]
      else [letter]

def writeString (text : String) : List Char :=
  '"' :: text.toList.flatMap escapeLetter ++ ['"']

/-- Positional from `0.00001` up to sixteen digits before the point; `1e-7` and `1e+21` outside. -/
def floatLayout : Decimal.Layout := ⟨-5, 15, ['e'], ['+']⟩

/-- A number that is infinite or undefined has no JSON text and is written as null. -/
def writeFloat (bits : UInt64) : List Char :=
  match Decimal.Number.ofBits bits with
  | .finite value => floatLayout.write value
  | .infinite _ | .undefined => "null".toList

mutual

def Value.write : Value → List Char
  | .null => "null".toList
  | .bool true => "true".toList
  | .bool false => "false".toList
  | .integer value => Decimal.writeInteger value
  | .float bits => writeFloat bits
  | .string text => writeString text
  | .array [] => ['[', ']']
  | .array (first :: rest) => '[' :: first.write ++ writeItems rest
  | .object [] => ['{', '}']
  | .object ((key, value) :: rest) => '{' :: writeString key ++ ':' :: value.write ++ writeMembers rest

/-- The items after the first, and the closing bracket. -/
def writeItems : List Value → List Char
  | [] => [']']
  | item :: rest => ',' :: item.write ++ writeItems rest

def writeMembers : List (String × Value) → List Char
  | [] => ['}']
  | (key, value) :: rest => ',' :: writeString key ++ ':' :: value.write ++ writeMembers rest

end

def newLine (level : Nat) : List Char :=
  '\n' :: List.replicate (2 * level) ' '

mutual

def Value.writeIndented (level : Nat) : Value → List Char
  | .array [] => ['[', ']']
  | .array (first :: rest) =>
      '[' :: newLine (level + 1) ++ first.writeIndented (level + 1) ++ writeItemsIndented level rest
  | .object [] => ['{', '}']
  | .object ((key, value) :: rest) =>
      '{' :: newLine (level + 1) ++ writeString key ++ ':' :: ' ' ::
        value.writeIndented (level + 1) ++ writeMembersIndented level rest
  | value => value.write

def writeItemsIndented (level : Nat) : List Value → List Char
  | [] => newLine level ++ [']']
  | item :: rest =>
      ',' :: newLine (level + 1) ++ item.writeIndented (level + 1) ++ writeItemsIndented level rest

def writeMembersIndented (level : Nat) : List (String × Value) → List Char
  | [] => newLine level ++ ['}']
  | (key, value) :: rest =>
      ',' :: newLine (level + 1) ++ writeString key ++ ':' :: ' ' ::
        value.writeIndented (level + 1) ++ writeMembersIndented level rest

end

namespace Value

def compact (value : Value) : String :=
  String.ofList value.write

def pretty (value : Value) : String :=
  String.ofList (value.writeIndented 0)

end Value

end Groundwork.Json
