import Groundwork.Json.Value
import Groundwork.Toml.Datetime

namespace Groundwork.Toml

/-! Values of TOML documents, and the JSON values that stand for them. -/

inductive Value where
  | string (text : String)
  | integer (value : Int)
  | float (bits : UInt64)
  | bool (value : Bool)
  | datetime (value : Datetime)
  | array (items : List Value)
  | table (entries : List (String × Value))
  deriving Inhabited

/-- A date or time is embedded as an object with this one key. -/
def datetimeKey : String := "$__toml_private_datetime"

mutual

def Value.embed : Value → Json.Value
  | .string text => .string text
  | .integer value => .integer value
  | .float bits => .float bits
  | .bool value => .bool value
  | .datetime value => .object [(datetimeKey, .string value.text)]
  | .array items => .array (embedItems items)
  | .table entries => .object (embedEntries entries)

def embedItems : List Value → List Json.Value
  | [] => []
  | item :: rest => item.embed :: embedItems rest

def embedEntries : List (String × Value) → List (String × Json.Value)
  | [] => []
  | (key, value) :: rest => (key, value.embed) :: embedEntries rest

end

mutual

def Value.same : Value → Value → Bool
  | .string text, .string other => text == other
  | .integer value, .integer other => value == other
  | .float bits, .float other => bits == other
  | .bool value, .bool other => value == other
  | .datetime value, .datetime other => value == other
  | .array items, .array others => sameItems items others
  | .table entries, .table others => sameEntries entries others
  | _, _ => false

def sameItems : List Value → List Value → Bool
  | [], [] => true
  | item :: rest, other :: others => item.same other && sameItems rest others
  | _, _ => false

def sameEntries : List (String × Value) → List (String × Value) → Bool
  | [], [] => true
  | (key, value) :: rest, (otherKey, other) :: others =>
      key == otherKey && value.same other && sameEntries rest others
  | _, _ => false

end

mutual

theorem Value.same_iff : (value other : Value) → (value.same other = true ↔ value = other)
  | .string _, other => by cases other <;> simp [Value.same]
  | .integer _, other => by cases other <;> simp [Value.same]
  | .float _, other => by cases other <;> simp [Value.same]
  | .bool _, other => by cases other <;> simp [Value.same]
  | .datetime _, other => by cases other <;> simp [Value.same]
  | .array items, other => by
      cases other with
      | array others => simp only [Value.same, sameItems_iff items others, Value.array.injEq]
      | _ => simp [Value.same]
  | .table entries, other => by
      cases other with
      | table others => simp only [Value.same, sameEntries_iff entries others, Value.table.injEq]
      | _ => simp [Value.same]

theorem sameItems_iff : (items others : List Value) → (sameItems items others = true ↔ items = others)
  | [], others => by cases others <;> simp [sameItems]
  | item :: rest, others => by
      cases others with
      | nil => simp [sameItems]
      | cons other others =>
          simp only [sameItems, Bool.and_eq_true, item.same_iff other, sameItems_iff rest others,
            List.cons.injEq]

theorem sameEntries_iff : (entries others : List (String × Value)) →
    (sameEntries entries others = true ↔ entries = others)
  | [], others => by cases others <;> simp [sameEntries]
  | (key, value) :: rest, others => by
      cases others with
      | nil => simp [sameEntries]
      | cons other others =>
          obtain ⟨otherKey, otherValue⟩ := other
          simp only [sameEntries, Bool.and_eq_true, beq_iff_eq, value.same_iff otherValue,
            sameEntries_iff rest others, List.cons.injEq, Prod.mk.injEq]

end

instance : DecidableEq Value := fun value other =>
  decidable_of_iff (value.same other = true) (value.same_iff other)

/-- TOML integers are signed and have 64 bits. -/
def isInteger (value : Int) : Bool :=
  Decimal.smallest ≤ value && value ≤ Decimal.largest

/-- What an object whose first key is `datetimeKey` stands for. -/
def datetimeOf? : List (String × Json.Value) → Option Value
  | [(_, .string text)] => (Datetime.ofText? text).map .datetime
  | _ => none

mutual

/-- The value that a JSON value stands for.  Null stands for none. -/
def Value.ofJson? : Json.Value → Option Value
  | .null => none
  | .bool value => some (.bool value)
  | .integer value => if isInteger value then some (.integer value) else none
  | .float bits => some (.float bits)
  | .string text => some (.string text)
  | .array items => (itemsOfJson? items).map .array
  | .object [] => some (.table [])
  | .object ((key, value) :: rest) =>
      if key = datetimeKey then datetimeOf? ((key, value) :: rest)
      else
        match Value.ofJson? value, entriesOfJson? rest with
        | some first, some entries => some (.table (Table.insert key first entries))
        | _, _ => none

def itemsOfJson? : List Json.Value → Option (List Value)
  | [] => some []
  | item :: rest =>
      match Value.ofJson? item, itemsOfJson? rest with
      | some item, some items => some (item :: items)
      | _, _ => none

/-- The entries in key order. -/
def entriesOfJson? : List (String × Json.Value) → Option (Table Value)
  | [] => some []
  | (key, value) :: rest =>
      match Value.ofJson? value, entriesOfJson? rest with
      | some value, some entries => some (Table.insert key value entries)
      | _, _ => none

end

end Groundwork.Toml
