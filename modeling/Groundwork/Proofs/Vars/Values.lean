import Groundwork.Proofs.Json.Exact
import Groundwork.Proofs.Vars.Expansion

namespace Groundwork

/-! Values keep their shape when their references are expanded. -/

namespace Toml

mutual

/-- How many arrays and tables are open at the deepest place. -/
def Value.nesting : Value → Nat
  | .array items => itemsNesting items + 1
  | .table entries => entriesNesting entries + 1
  | _ => 0

def itemsNesting : List Value → Nat
  | [] => 0
  | item :: rest => max item.nesting (itemsNesting rest)

def entriesNesting : List (String × Value) → Nat
  | [] => 0
  | (_, value) :: rest => max value.nesting (entriesNesting rest)

end

mutual

/-- Whole numbers of 64 bits, no others, and every table in key order. -/
def Value.Exact : Value → Prop
  | .integer value => isInteger value = true
  | .float _ => False
  | .array items => ItemsExact items
  | .table entries => Table.Sorted entries ∧ EntriesExact entries
  | _ => True

def ItemsExact : List Value → Prop
  | [] => True
  | item :: rest => item.Exact ∧ ItemsExact rest

def EntriesExact : List (String × Value) → Prop
  | [] => True
  | (_, value) :: rest => value.Exact ∧ EntriesExact rest

end

end Toml

namespace Vars

variable {vars : Vars} {environment : Environment}

theorem isWord_of_bounds {value : Int} (low : Decimal.smallest ≤ value)
    (high : value ≤ Decimal.largest) : Json.IsWord value := by
  unfold Decimal.smallest at low
  unfold Decimal.largest at high
  exact Json.isWord_iff.mpr ⟨by omega, by omega⟩

theorem isWord_of_readInteger? {letters : List Char} {value : Int}
    (read : Decimal.readInteger? letters = some value) : Json.IsWord value := by
  simp only [Decimal.readInteger?] at read
  split at read
  · split at read <;> cases read
    next bounds => exact isWord_of_bounds bounds.1 bounds.2
  · cases read

theorem typed_shape (text expanded : String) :
    (typed text expanded).Exact ∧ (typed text expanded).nesting = 0 := by
  unfold typed
  split
  · next read =>
      split
      · exact ⟨isWord_of_readInteger? read, rfl⟩
      · exact ⟨trivial, rfl⟩
  · exact ⟨trivial, rfl⟩

theorem keys_expandEntries {entries : List (String × Toml.Value)}
    {members : List (String × Json.Value)}
    (expanded : vars.expandEntries environment entries = .ok members) :
    members.map Prod.fst = entries.map Prod.fst := by
  induction entries generalizing members with
  | nil =>
      cases expanded
      rfl
  | cons entry rest ih =>
      obtain ⟨key, value⟩ := entry
      rw [expandEntries] at expanded
      obtain ⟨first, -, later⟩ := bind_eq_ok.mp expanded
      obtain ⟨others, found, same⟩ := bind_eq_ok.mp later
      cases same
      simp [ih found]

theorem sorted_expandEntries {entries : List (String × Toml.Value)}
    {members : List (String × Json.Value)}
    (expanded : vars.expandEntries environment entries = .ok members)
    (sorted : Table.Sorted entries) : Table.Sorted members := by
  rw [Table.Sorted, ← List.pairwise_map] at sorted ⊢
  rwa [keys_expandEntries expanded]

mutual

theorem expandValue_shape (value : Toml.Value) (exact : value.Exact) {expanded : Json.Value}
    (done : vars.expandValue environment value = .ok expanded) :
    expanded.Exact ∧ expanded.nesting = value.nesting := by
  match value with
  | .string text =>
      rw [expandValue] at done
      obtain ⟨letters, -, same⟩ := bind_eq_ok.mp done
      cases same
      exact typed_shape text letters
  | .integer number =>
      cases done
      have bounds : Decimal.smallest ≤ number ∧ number ≤ Decimal.largest := by
        simpa [Toml.Value.Exact, Toml.isInteger] using exact
      exact ⟨isWord_of_bounds bounds.1 bounds.2, rfl⟩
  | .float bits => cases exact
  | .bool flag =>
      cases done
      exact ⟨trivial, rfl⟩
  | .datetime time =>
      cases done
      exact ⟨trivial, rfl⟩
  | .array items =>
      rw [expandValue] at done
      obtain ⟨others, found, same⟩ := bind_eq_ok.mp done
      cases same
      obtain ⟨exactItems, nested⟩ := expandItems_shape items exact found
      exact ⟨exactItems, congrArg (· + 1) nested⟩
  | .table entries =>
      rw [expandValue] at done
      obtain ⟨members, found, same⟩ := bind_eq_ok.mp done
      cases same
      obtain ⟨exactMembers, nested⟩ := expandEntries_shape entries exact.2 found
      exact ⟨⟨sorted_expandEntries found exact.1, exactMembers⟩, congrArg (· + 1) nested⟩

theorem expandItems_shape (items : List Toml.Value) (exact : Toml.ItemsExact items)
    {expanded : List Json.Value} (done : vars.expandItems environment items = .ok expanded) :
    Json.ItemsExact expanded ∧ Json.itemsNesting expanded = Toml.itemsNesting items := by
  match items with
  | [] =>
      cases done
      exact ⟨trivial, rfl⟩
  | item :: rest =>
      rw [expandItems] at done
      obtain ⟨first, found, later⟩ := bind_eq_ok.mp done
      obtain ⟨others, foundOthers, same⟩ := bind_eq_ok.mp later
      cases same
      obtain ⟨exactFirst, nested⟩ := expandValue_shape item exact.1 found
      obtain ⟨exactOthers, nestedOthers⟩ := expandItems_shape rest exact.2 foundOthers
      refine ⟨⟨exactFirst, exactOthers⟩, ?_⟩
      rw [Json.itemsNesting, Toml.itemsNesting, nested, nestedOthers]

theorem expandEntries_shape (entries : List (String × Toml.Value))
    (exact : Toml.EntriesExact entries) {expanded : List (String × Json.Value)}
    (done : vars.expandEntries environment entries = .ok expanded) :
    Json.MembersExact expanded ∧ Json.membersNesting expanded = Toml.entriesNesting entries := by
  match entries with
  | [] =>
      cases done
      exact ⟨trivial, rfl⟩
  | (key, value) :: rest =>
      rw [expandEntries] at done
      obtain ⟨first, found, later⟩ := bind_eq_ok.mp done
      obtain ⟨others, foundOthers, same⟩ := bind_eq_ok.mp later
      cases same
      obtain ⟨exactFirst, nested⟩ := expandValue_shape value exact.1 found
      obtain ⟨exactOthers, nestedOthers⟩ := expandEntries_shape rest exact.2 foundOthers
      refine ⟨⟨exactFirst, exactOthers⟩, ?_⟩
      rw [Json.membersNesting, Toml.entriesNesting, nested, nestedOthers]

end

theorem plain_expandEntries {entries : List (String × Toml.Value)}
    {members : List (String × Json.Value)} (exact : (Toml.Value.table entries).Exact)
    (shallow : (Toml.Value.table entries).nesting < Json.depthLimit)
    (expanded : vars.expandEntries environment entries = .ok members) :
    (Json.Value.object members).Plain := by
  obtain ⟨exactMembers, nested⟩ := expandEntries_shape entries exact.2 expanded
  refine ⟨⟨sorted_expandEntries expanded exact.1, exactMembers⟩, ?_⟩
  rwa [Json.Value.nesting, nested]

end Vars

end Groundwork
