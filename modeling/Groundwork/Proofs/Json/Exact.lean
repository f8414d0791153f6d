import Groundwork.Json.Reader

namespace Groundwork.Json

/-! How deep a value is nested, and which values have a text that stands for them alone. -/

mutual

/-- How many arrays and objects are open at the deepest place. -/
def Value.nesting : Value → Nat
  | .array items => itemsNesting items + 1
  | .object members => membersNesting members + 1
  | _ => 0

def itemsNesting : List Value → Nat
  | [] => 0
  | item :: rest => max item.nesting (itemsNesting rest)

def membersNesting : List (String × Value) → Nat
  | [] => 0
  | (_, value) :: rest => max value.nesting (membersNesting rest)

end

/-- The integers that 64 bits hold, with a sign or without one. -/
def IsWord (value : Int) : Prop :=
  Decimal.smallest ≤ value ∧ value < (wordLimit : Nat)

instance (value : Int) : Decidable (IsWord value) :=
  inferInstanceAs (Decidable (_ ∧ _))

theorem isWord_iff {value : Int} :
    IsWord value ↔ -9223372036854775808 ≤ value ∧ value < 18446744073709551616 := Iff.rfl

mutual

/-- Whole numbers of 64 bits, no others, and every object in key order. -/
def Value.Exact : Value → Prop
  | .integer value => IsWord value
  | .float _ => False
  | .array items => ItemsExact items
  | .object members => Table.Sorted members ∧ MembersExact members
  | _ => True

def ItemsExact : List Value → Prop
  | [] => True
  | item :: rest => item.Exact ∧ ItemsExact rest

def MembersExact : List (String × Value) → Prop
  | [] => True
  | (_, value) :: rest => value.Exact ∧ MembersExact rest

end

mutual

def Value.FloatFree : Value → Prop
  | .float _ => False
  | .array items => ItemsFloatFree items
  | .object members => MembersFloatFree members
  | _ => True

def ItemsFloatFree : List Value → Prop
  | [] => True
  | item :: rest => item.FloatFree ∧ ItemsFloatFree rest

def MembersFloatFree : List (String × Value) → Prop
  | [] => True
  | (_, value) :: rest => value.FloatFree ∧ MembersFloatFree rest

end

theorem itemsExact_iff {items : List Value} : ItemsExact items ↔ ∀ item ∈ items, item.Exact := by
  induction items with
  | nil => simp [ItemsExact]
  | cons item rest ih => simp [ItemsExact, ih]

theorem membersExact_iff {members : List (String × Value)} :
    MembersExact members ↔ ∀ member ∈ members, member.2.Exact := by
  induction members with
  | nil => simp [MembersExact]
  | cons member rest ih =>
      obtain ⟨key, value⟩ := member
      simp [MembersExact, ih]

theorem membersNesting_lt_iff {members : List (String × Value)} {limit : Nat} (some : 0 < limit) :
    membersNesting members < limit ↔ ∀ member ∈ members, member.2.nesting < limit := by
  induction members with
  | nil => simpa [membersNesting] using some
  | cons member rest ih =>
      obtain ⟨key, value⟩ := member
      rw [membersNesting, Nat.max_lt, ih, List.forall_mem_cons]

theorem itemsFloatFree_iff {items : List Value} :
    ItemsFloatFree items ↔ ∀ item ∈ items, item.FloatFree := by
  induction items with
  | nil => simp [ItemsFloatFree]
  | cons item rest ih => simp [ItemsFloatFree, ih]

theorem membersFloatFree_iff {members : List (String × Value)} :
    MembersFloatFree members ↔ ∀ member ∈ members, member.2.FloatFree := by
  induction members with
  | nil => simp [MembersFloatFree]
  | cons member rest ih =>
      obtain ⟨key, value⟩ := member
      simp [MembersFloatFree, ih]

/-- A value that is read back from its text: exact, and nested within the limit of the reader. -/
def Value.Plain (value : Value) : Prop :=
  value.Exact ∧ value.nesting < depthLimit

theorem itemsNesting_lt_iff {items : List Value} {limit : Nat} (some : 0 < limit) :
    itemsNesting items < limit ↔ ∀ item ∈ items, item.nesting < limit := by
  induction items with
  | nil => simpa [itemsNesting] using some
  | cons item rest ih => rw [itemsNesting, Nat.max_lt, ih, List.forall_mem_cons]

theorem plain_object_iff {members : Table Value} : (Value.object members).Plain ↔
    members.Sorted ∧ ∀ member ∈ members, member.2.Exact ∧ member.2.nesting < depthLimit - 1 := by
  have limit : membersNesting members + 1 < depthLimit ↔ membersNesting members < depthLimit - 1 := by
    omega
  rw [Value.Plain, Value.Exact, Value.nesting, limit, membersNesting_lt_iff (by decide),
    membersExact_iff, and_assoc]
  simp only [imp_and, forall_and]

end Groundwork.Json
