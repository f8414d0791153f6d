import Groundwork.Proofs.Json.Exact
import Groundwork.Proofs.Table

namespace Groundwork.Json

/-! Every value that is read is nested within the limit, and exact where it holds no binary64 number. -/

/-- What a reader with room for `depth` gives back. -/
structure Value.Within (depth : Nat) (value : Value) : Prop where
  nesting : value.nesting < depth
  exact : value.FloatFree → value.Exact
  sorted : ∀ members, value = .object members → Table.Sorted members

variable {depth : Nat}

theorem within_array {items : List Value} (room : 0 < depth)
    (all : ∀ item ∈ items, item.Within depth) : (Value.array items).Within (depth + 1) := by
  constructor
  · have inner := (itemsNesting_lt_iff room).mpr fun item member => (all item member).nesting
    rw [Value.nesting]
    omega
  · intro free
    rw [Value.FloatFree, itemsFloatFree_iff] at free
    rw [Value.Exact, itemsExact_iff]
    exact fun item member => (all item member).exact (free item member)
  · intro members same
    cases same

theorem within_object {members : List (String × Value)} (room : 0 < depth)
    (all : ∀ member ∈ members, member.2.Within depth) :
    (Value.object (Table.ofList members)).Within (depth + 1) := by
  have kept : ∀ member ∈ Table.ofList members, member.2.Within depth := by
    intro member stays
    rcases Table.mem_merge stays with read | none
    · exact all member read
    · cases none
  constructor
  · have inner := (membersNesting_lt_iff room).mpr fun member stays => (kept member stays).nesting
    rw [Value.nesting]
    omega
  · intro free
    rw [Value.FloatFree, membersFloatFree_iff] at free
    rw [Value.Exact, membersExact_iff]
    exact ⟨Table.sorted_ofList members, fun member stays => (kept member stays).exact (free member stays)⟩
  · intro others same
    cases same
    exact Table.sorted_ofList members

theorem significandOf_lt (digits : List Char) {value : Nat} (small : value < wordLimit) :
    (significandOf value digits).1 < wordLimit := by
  induction digits generalizing value with
  | nil => exact small
  | cons digit rest ih =>
      rw [significandOf]
      split
      · next fits => exact ih fits
      · exact small

theorem fractional_float {number : NumberText} {significand : Nat} {shift : Int} {value : Value}
    (read : number.fractional significand shift = some value) : ∃ bits, value = .float bits := by
  have float (result : Option Float) (found : result.map (signed number.negative) = some value) :
      ∃ bits, value = .float bits := by
    obtain ⟨_, -, rfl⟩ := Option.map_eq_some_iff.mp found
    exact ⟨_, rfl⟩
  simp only [NumberText.fractional] at read
  split at read
  · exact float _ read
  · split at read
    · split at read
      · cases read
      · cases read
        exact ⟨_, rfl⟩
    · exact float _ read

theorem within_float (room : 0 < depth) (bits : UInt64) : (Value.float bits).Within depth :=
  ⟨room, False.elim, fun _ same => by cases same⟩

theorem within_integer (room : 0 < depth) {value : Int} (word : IsWord value) :
    (Value.integer value).Within depth :=
  ⟨room, fun _ => word, fun _ same => by cases same⟩

theorem within_number (room : 0 < depth) {number : NumberText} {value : Value}
    (read : number.value = some value) : value.Within depth := by
  have limit : wordLimit = 2 ^ 64 := rfl
  have small := significandOf_lt number.whole (show 0 < wordLimit by decide)
  have float {significand : Nat} {shift : Int}
      (read : number.fractional significand shift = some value) : value.Within depth := by
    obtain ⟨bits, rfl⟩ := fractional_float read
    exact within_float room bits
  unfold NumberText.value at read
  split at read
  next significand dropped taken =>
    rw [taken] at small
    split at read
    · exact float read
    · split at read
      · exact float read
      · split at read
        · cases read
          exact within_integer room (isWord_iff.mpr ⟨by omega, by omega⟩)
        · split at read
          · cases read
            exact within_float room _
          · next fits =>
              cases read
              have bound : Nat.pow 2 63 = 2 ^ 63 := rfl
              exact within_integer room (isWord_iff.mpr ⟨by omega, by omega⟩)

theorem within_literal (room : 0 < depth) {letters rest : List Char} {value : Value}
    (read : readLiteral letters = some (value, rest)) : value.Within depth := by
  obtain ⟨⟨word, literal⟩, member, found⟩ := List.exists_of_findSome?_eq_some read
  have same : literal = value := by
    simp only [Option.ite_none_right_eq_some, Option.some.injEq, Prod.mk.injEq] at found
    exact found.2.1
  subst same
  simp only [literals, List.mem_cons, Prod.mk.injEq, List.not_mem_nil, or_false] at member
  rcases member with ⟨-, rfl⟩ | ⟨-, rfl⟩ | ⟨-, rfl⟩ <;>
    exact ⟨room, fun _ => trivial, fun _ same => by cases same⟩

mutual

theorem within_of_readValue (fuel : Nat) {depth : Nat} (room : 0 < depth) {letters rest : List Char} {value : Value}
    (read : readValue fuel depth letters = some (value, rest)) : value.Within depth := by
  match fuel with
  | 0 => cases read
  | fuel + 1 =>
      unfold readValue at read
      split at read
      · obtain ⟨_, -, same⟩ := Option.map_eq_some_iff.mp read
        cases same
        exact ⟨room, fun _ => trivial, fun _ same => by cases same⟩
      · split at read
        · cases read
        · next deep =>
            obtain ⟨less, rfl⟩ : ∃ less, depth = less + 1 := ⟨depth - 1, by omega⟩
            have inner : 0 < less := by omega
            split at read
            · cases read
              exact within_array inner (List.forall_mem_nil _)
            · obtain ⟨⟨items, _⟩, found, same⟩ := Option.map_eq_some_iff.mp read
              cases same
              exact within_array inner (within_of_readItems fuel inner found)
      · split at read
        · cases read
        · next deep =>
            obtain ⟨less, rfl⟩ : ∃ less, depth = less + 1 := ⟨depth - 1, by omega⟩
            have inner : 0 < less := by omega
            split at read
            · cases read
              exact within_object inner (List.forall_mem_nil _)
            · obtain ⟨⟨members, _⟩, found, same⟩ := Option.map_eq_some_iff.mp read
              cases same
              exact within_object inner (within_of_readMembers fuel inner found)
      · split at read
        · next found =>
            cases read
            exact within_literal room found
        · split at read
          · obtain ⟨_, found, same⟩ := Option.map_eq_some_iff.mp read
            cases same
            exact within_number room found
          · cases read
termination_by structural fuel

theorem within_of_readItems (fuel : Nat) {depth : Nat} (room : 0 < depth) {letters rest : List Char}
    {items : List Value} (read : readItems fuel depth letters = some (items, rest)) :
    ∀ item ∈ items, item.Within depth := by
  match fuel with
  | 0 => cases read
  | fuel + 1 =>
      unfold readItems at read
      split at read
      · cases read
      · next first after found =>
          have own := within_of_readValue fuel room found
          split at read
          · cases read
            simpa using own
          · obtain ⟨⟨others, _⟩, later, same⟩ := Option.map_eq_some_iff.mp read
            cases same
            exact List.forall_mem_cons.mpr ⟨own, within_of_readItems fuel room later⟩
          · cases read
termination_by structural fuel

theorem within_of_readMembers (fuel : Nat) {depth : Nat} (room : 0 < depth) {letters rest : List Char}
    {members : List (String × Value)}
    (read : readMembers fuel depth letters = some (members, rest)) :
    ∀ member ∈ members, member.2.Within depth := by
  match fuel with
  | 0 => cases read
  | fuel + 1 =>
      unfold readMembers at read
      split at read
      · split at read
        · cases read
        · split at read
          · split at read
            · cases read
            · next found =>
                have own := within_of_readValue fuel room found
                split at read
                · cases read
                  simpa using own
                · obtain ⟨⟨others, _⟩, later, same⟩ := Option.map_eq_some_iff.mp read
                  cases same
                  exact List.forall_mem_cons.mpr ⟨own, within_of_readMembers fuel room later⟩
                · cases read
          · cases read
      · cases read
termination_by structural fuel

end

theorem within_of_read {text : String} {value : Value} (read : Json.read text = some value) :
    value.Within depthLimit := by
  simp only [Json.read] at read
  split at read
  · next found =>
      split at read
      · cases read
        exact within_of_readValue _ (by decide) found
      · cases read
  · cases read

end Groundwork.Json
