import Groundwork.Decimal.Shortest
import Groundwork.Toml.Value
import Groundwork.Vars

namespace Groundwork.Vars

/-! TOML values turned into JSON with their references expanded.

A string that is one reference and stands for a whole number becomes that number.
-/

def isFinite (bits : UInt64) : Bool :=
  match Decimal.Number.ofBits bits with
  | .finite _ => true
  | _ => false

def typed (text expanded : String) : Json.Value :=
  match Decimal.readInteger? expanded.toList with
  | some value => if isSingleReference text then .integer value else .string expanded
  | none => .string expanded

mutual

def expandValue (vars : Vars) (environment : Environment) :
    Toml.Value → Except Failure Json.Value
  | .string text => do
      let expanded ← vars.expand environment text
      return typed text expanded
  | .integer value => .ok (.integer value)
  | .float bits => .ok (if isFinite bits then .float bits else .null)
  | .bool value => .ok (.bool value)
  | .datetime value => .ok (.string value.text)
  | .array items => do
      let items ← expandItems vars environment items
      return .array items
  | .table entries => do
      let members ← expandEntries vars environment entries
      return .object members

def expandItems (vars : Vars) (environment : Environment) :
    List Toml.Value → Except Failure (List Json.Value)
  | [] => .ok []
  | item :: rest => do
      let first ← expandValue vars environment item
      let others ← expandItems vars environment rest
      return first :: others

def expandEntries (vars : Vars) (environment : Environment) :
    List (String × Toml.Value) → Except Failure (List (String × Json.Value))
  | [] => .ok []
  | (key, value) :: rest => do
      let first ← expandValue vars environment value
      let others ← expandEntries vars environment rest
      return (key, first) :: others

end

end Groundwork.Vars
