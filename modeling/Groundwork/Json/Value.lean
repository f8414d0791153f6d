import Groundwork.Table

namespace Groundwork.Json

/-! JSON values.

An integer is kept whole and apart from the binary64 numbers, which are kept as their bits.  The
members of an object stand in key order in every value that is read from text.
-/

inductive Value where
  | null
  | bool (value : Bool)
  | integer (value : Int)
  | float (bits : UInt64)
  | string (text : String)
  | array (items : List Value)
  | object (members : List (String × Value))
  deriving Inhabited

namespace Value

def ofNat (value : Nat) : Value := .integer value

def ofStrings (texts : List String) : Value := .array (texts.map .string)

def ofOption : Option String → Value
  | some text => .string text
  | none => .null

def ofTable (table : Table String) : Value := .object (table.mapValues .string)

/-- An object with its members brought into key order. -/
def ofMembers (members : List (String × Value)) : Value := .object (Table.ofList members)

def string? : Value → Option String
  | .string text => some text
  | _ => none

def items? : Value → Option (List Value)
  | .array items => some items
  | _ => none

def members? : Value → Option (Table Value)
  | .object members => some members
  | _ => none

/-- The member of an object; nothing for any other value. -/
def member? (key : String) : Value → Option Value
  | .object members => Table.get? key members
  | _ => none

end Value

end Groundwork.Json
