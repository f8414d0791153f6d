import Groundwork.Proofs.Decimal
import Groundwork.Proofs.Table
import Groundwork.Proofs.Vars.Substitution
import Groundwork.Proofs.Vars.Values
import Mathlib.Data.List.Forall2

namespace Groundwork

/-! Values part by part: what expansion puts in the place of each part of a value, and which part it
fails with.

A route leads to a part through the items of arrays and the entries of tables.  Routes in their
lexicographic order are the order in which expansion reads the parts.
-/

/-- What leads from a value to the next part of it. -/
inductive Selector where
  | item (index : Nat)
  | entry (key : String)
  deriving DecidableEq

/-- Items come in their own order, and entries in that of their keys. -/
inductive Selector.Before : Selector → Selector → Prop
  | items {first second : Nat} (less : first < second) : Before (.item first) (.item second)
  | entries {first second : String} (less : first < second) : Before (.entry first) (.entry second)

abbrev Route := List Selector

namespace Route

variable {α : Type u} {β : Type v}

theorem exists_of_rel {related : α → β → Prop} {part : Option α} {otherPart : Option β} {value : α}
    (parts : Option.Rel related part otherPart) (found : part = some value) :
    ∃ other, otherPart = some other ∧ related value other := by
  cases parts with
  | none => contradiction
  | some both =>
      cases found
      exact ⟨_, rfl, both⟩

theorem eq_none_of_rel {related : α → β → Prop} {part : Option α} {otherPart : Option β}
    (parts : Option.Rel related part otherPart) (missing : part = none) : otherPart = none := by
  cases parts with
  | none => rfl
  | some both => contradiction

/-- What a route leads to, where one step leads to what `part?` gives. -/
def follow? (part? : Selector → α → Option α) : Route → α → Option α
  | [], value => some value
  | selector :: rest, value => (part? selector value).bind (follow? part? rest)

/-- Values that are related together with their parts are related along every route. -/
theorem follow?_rel {related : α → β → Prop} {part? : Selector → α → Option α}
    {otherPart? : Selector → β → Option β}
    (parts : ∀ selector value other, related value other →
      Option.Rel related (part? selector value) (otherPart? selector other))
    (route : Route) {value : α} {other : β} (start : related value other) :
    Option.Rel related (route.follow? part? value) (route.follow? otherPart? other) := by
  induction route generalizing value other with
  | nil => exact .some start
  | cons selector rest ih =>
      have next := parts selector value other start
      rw [follow?, follow?]
      cases found : part? selector value with
      | none =>
          rw [eq_none_of_rel next found]
          exact .none
      | some part =>
          obtain ⟨otherPart, reached, both⟩ := exists_of_rel next found
          rw [reached]
          exact ih both

end Route

namespace Toml

def Value.part? : Selector → Value → Option Value
  | .item index, .array items => items[index]?
  | .entry key, .table entries => Table.get? key entries
  | _, _ => none

/-- The part of a value that a route leads to. -/
def Value.at? (value : Value) (route : Route) : Option Value :=
  route.follow? part? value

theorem ItemsExact.getElem? {items : List Value} {index : Nat} {item : Value}
    (exact : ItemsExact items) (found : items[index]? = some item) : item.Exact := by
  induction items generalizing index with
  | nil => simp at found
  | cons first rest ih =>
      cases index with
      | zero =>
          cases found
          exact exact.1
      | succ index => exact ih exact.2 found

theorem EntriesExact.get? {entries : List (String × Value)} {key : String} {value : Value}
    (exact : EntriesExact entries) (found : Table.get? key entries = some value) : value.Exact := by
  induction entries with
  | nil => contradiction
  | cons entry rest ih =>
      rw [Table.get?] at found
      split at found
      · cases found
        exact exact.1
      · exact ih exact.2 found

theorem Value.Exact.part? {value part : Value} {selector : Selector} (exact : value.Exact)
    (found : value.part? selector = some part) : part.Exact := by
  unfold Value.part? at found
  split at found
  · exact ItemsExact.getElem? exact found
  · exact EntriesExact.get? exact.2 found
  · contradiction

theorem Value.Exact.at? {value part : Value} {route : Route} (exact : value.Exact)
    (found : value.at? route = some part) : part.Exact := by
  induction route generalizing value with
  | nil =>
      cases found
      exact exact
  | cons selector rest ih =>
      obtain ⟨next, first, later⟩ := Option.bind_eq_some_iff.mp found
      exact ih (exact.part? first) later

end Toml

namespace Json

def Value.part? : Selector → Value → Option Value
  | .item index, .array items => items[index]?
  | .entry key, .object members => Table.get? key members
  | _, _ => none

/-- The part of a value that a route leads to. -/
def Value.at? (value : Value) (route : Route) : Option Value :=
  route.follow? part? value

end Json

namespace Vars

/-- What a string becomes: the number that it stands for where it is nothing but one reference, and
otherwise its expansion. -/
structure TextBecomes (vars : Vars) (environment : Environment) (text : String)
    (result : Json.Value) : Prop where
  number : ∀ value, result = .integer value ↔
    (∃ name, IsName name ∧ referenceTo name = text) ∧
      ∃ expanded, vars.expand environment text = .ok expanded ∧
        Decimal.Denotes expanded.toList value ∧
        Decimal.smallest ≤ value ∧ value ≤ Decimal.largest
  string : (∀ value, result ≠ .integer value) →
    ∃ expanded, vars.expand environment text = .ok expanded ∧ result = .string expanded

/-- What a value becomes, as far as it can be seen without looking at its parts. -/
inductive Becomes (vars : Vars) (environment : Environment) : Toml.Value → Json.Value → Prop
  | string {text : String} {result : Json.Value} (becomes : vars.TextBecomes environment text result) :
      Becomes vars environment (.string text) result
  | integer (value : Int) : Becomes vars environment (.integer value) (.integer value)
  | bool (value : Bool) : Becomes vars environment (.bool value) (.bool value)
  | datetime (value : Toml.Datetime) :
      Becomes vars environment (.datetime value) (.string value.text)
  | array {items : List Toml.Value} {others : List Json.Value} (long : others.length = items.length) :
      Becomes vars environment (.array items) (.array others)
  | table {entries : List (String × Toml.Value)} {members : List (String × Json.Value)}
      (named : members.map Prod.fst = entries.map Prod.fst) :
      Becomes vars environment (.table entries) (.object members)

variable {vars : Vars} {environment : Environment}

theorem expandItems_parts {items : List Toml.Value} {others : List Json.Value}
    (expanded : vars.expandItems environment items = .ok others) :
    List.Forall₂ (fun item other => vars.expandValue environment item = .ok other) items others := by
  induction items generalizing others with
  | nil =>
      cases expanded
      exact .nil
  | cons item rest ih =>
      rw [expandItems] at expanded
      obtain ⟨first, found, later⟩ := bind_eq_ok.mp expanded
      obtain ⟨others, foundOthers, same⟩ := bind_eq_ok.mp later
      cases same
      exact .cons found (ih foundOthers)

theorem expandItems_getElem? {items : List Toml.Value} {others : List Json.Value}
    (expanded : vars.expandItems environment items = .ok others) (index : Nat) :
    Option.Rel (fun item other => vars.expandValue environment item = .ok other)
      items[index]? others[index]? := by
  have parts := expandItems_parts expanded
  clear expanded
  induction parts generalizing index with
  | nil => exact .none
  | cons first rest ih =>
      cases index with
      | zero => exact .some first
      | succ index => exact ih index

theorem expandEntries_get? {entries : List (String × Toml.Value)}
    {members : List (String × Json.Value)}
    (expanded : vars.expandEntries environment entries = .ok members) (key : String) :
    Option.Rel (fun value other => vars.expandValue environment value = .ok other)
      (Table.get? key entries) (Table.get? key members) := by
  induction entries generalizing members with
  | nil =>
      cases expanded
      exact .none
  | cons entry rest ih =>
      obtain ⟨own, value⟩ := entry
      rw [expandEntries] at expanded
      obtain ⟨first, found, later⟩ := bind_eq_ok.mp expanded
      obtain ⟨others, foundOthers, same⟩ := bind_eq_ok.mp later
      cases same
      rw [Table.get?, Table.get?]
      split
      · exact .some found
      · exact ih foundOthers

theorem expandValue_part? (selector : Selector) (value : Toml.Value) (result : Json.Value)
    (expanded : vars.expandValue environment value = .ok result) :
    Option.Rel (fun part other => vars.expandValue environment part = .ok other)
      (value.part? selector) (result.part? selector) := by
  cases value with
  | string text =>
      rw [expandValue] at expanded
      obtain ⟨letters, -, same⟩ := bind_eq_ok.mp expanded
      cases same
      unfold typed
      split
      · split <;> cases selector <;> exact .none
      · cases selector <;> exact .none
  | integer | bool | datetime =>
      cases expanded
      cases selector <;> exact .none
  | float bits =>
      cases expanded
      split <;> cases selector <;> exact .none
  | array items =>
      rw [expandValue] at expanded
      obtain ⟨others, found, same⟩ := bind_eq_ok.mp expanded
      cases same
      cases selector with
      | item index => exact expandItems_getElem? found index
      | entry key => exact .none
  | table entries =>
      rw [expandValue] at expanded
      obtain ⟨members, found, same⟩ := bind_eq_ok.mp expanded
      cases same
      cases selector with
      | item index => exact .none
      | entry key => exact expandEntries_get? found key

theorem expandValue_at? {value : Toml.Value} {result : Json.Value}
    (expanded : vars.expandValue environment value = .ok result) (route : Route) :
    Option.Rel (fun part other => vars.expandValue environment part = .ok other)
      (value.at? route) (result.at? route) :=
  route.follow?_rel expandValue_part? expanded

theorem typed_becomes {text expanded : String}
    (found : vars.expand environment text = .ok expanded) :
    vars.TextBecomes environment text (typed text expanded) := by
  have reads : ∀ value, Decimal.readInteger? expanded.toList = some value ↔
      ∃ letters, vars.expand environment text = .ok letters ∧
        Decimal.Denotes letters.toList value ∧
        Decimal.smallest ≤ value ∧ value ≤ Decimal.largest := by
    intro value
    rw [Decimal.readInteger?_eq_some_iff, found]
    simp
  unfold typed
  cases read : Decimal.readInteger? expanded.toList with
  | none =>
      refine ⟨fun value => ?_, fun _ => ⟨expanded, found, rfl⟩⟩
      rw [← reads, read]
      simp
  | some number =>
      cases single : isSingleReference text with
      | false =>
          refine ⟨fun value => ?_, fun _ => ⟨expanded, found, rfl⟩⟩
          rw [← isSingleReference_iff, single]
          simp
      | true =>
          refine ⟨fun value => ?_, fun none => absurd rfl (none number)⟩
          rw [← isSingleReference_iff, single, ← reads, read]
          simp

theorem becomes_of_expandValue {value : Toml.Value} {result : Json.Value} (exact : value.Exact)
    (expanded : vars.expandValue environment value = .ok result) :
    vars.Becomes environment value result := by
  cases value with
  | string text =>
      rw [expandValue] at expanded
      obtain ⟨letters, found, same⟩ := bind_eq_ok.mp expanded
      cases same
      exact .string (typed_becomes found)
  | integer value =>
      cases expanded
      exact .integer value
  | bool value =>
      cases expanded
      exact .bool value
  | datetime value =>
      cases expanded
      exact .datetime value
  | float bits => cases exact
  | array items =>
      rw [expandValue] at expanded
      obtain ⟨others, found, same⟩ := bind_eq_ok.mp expanded
      cases same
      exact .array (expandItems_parts found).length_eq.symm
  | table entries =>
      rw [expandValue] at expanded
      obtain ⟨members, found, same⟩ := bind_eq_ok.mp expanded
      cases same
      exact .table (keys_expandEntries found)

theorem expand_of_at? {value : Toml.Value} {result : Json.Value} {route : Route} {text : String}
    (expanded : vars.expandValue environment value = .ok result)
    (stands : value.at? route = some (.string text)) :
    ∃ letters, vars.expand environment text = .ok letters := by
  obtain ⟨_, -, found⟩ := Route.exists_of_rel (expandValue_at? expanded route) stands
  rw [expandValue] at found
  obtain ⟨letters, done, -⟩ := bind_eq_ok.mp found
  exact ⟨letters, done⟩

/-- A text at the end of the route fails, and none that is read before it. -/
structure FailsFirstAt (vars : Vars) (environment : Environment) (value : Toml.Value)
    (failure : Failure) (route : Route) (text : String) : Prop where
  stands : value.at? route = some (.string text)
  fails : vars.expand environment text = .error failure
  first : ∀ earlier other, List.Lex Selector.Before earlier route →
    value.at? earlier = some (.string other) → ∃ letters, vars.expand environment other = .ok letters

/-- A value fails where the first part of it fails that is not expanded. -/
theorem FailsFirstAt.of_part {value part : Toml.Value} {selector : Selector} {failure : Failure}
    {route : Route} {text : String} (found : value.part? selector = some part)
    (failing : vars.FailsFirstAt environment part failure route text)
    (before : ∀ earlier other, earlier.Before selector → value.part? earlier = some other →
      ∃ result, vars.expandValue environment other = .ok result) :
    vars.FailsFirstAt environment value failure (selector :: route) text where
  stands := Option.bind_eq_some_iff.mpr ⟨part, found, failing.stands⟩
  fails := failing.fails
  first := by
    intro earlier other precedes stands
    cases precedes with
    | nil =>
        -- A value with parts is no text.
        cases stands
        cases selector <;> contradiction
    | rel less =>
        obtain ⟨next, reached, later⟩ := Option.bind_eq_some_iff.mp stands
        obtain ⟨result, expanded⟩ := before _ next less reached
        exact expand_of_at? expanded later
    | cons less =>
        obtain ⟨next, reached, later⟩ := Option.bind_eq_some_iff.mp stands
        cases found.symm.trans reached
        exact failing.first _ other less later

mutual

theorem exists_failsFirstAt (value : Toml.Value) (exact : value.Exact) {failure : Failure}
    (failed : vars.expandValue environment value = .error failure) :
    ∃ route text, vars.FailsFirstAt environment value failure route text := by
  match value with
  | .string text =>
      rw [expandValue, convert_eq_error_iff] at failed
      exact ⟨[], text, rfl, failed, fun _ _ precedes => nomatch precedes⟩
  | .integer _ | .bool _ | .datetime _ => cases failed
  | .float bits => cases exact
  | .array items =>
      rw [expandValue, convert_eq_error_iff] at failed
      obtain ⟨index, item, route, text, found, failing, before⟩ :=
        exists_item_failsFirstAt items exact failed
      refine ⟨.item index :: route, text, failing.of_part found ?_⟩
      intro earlier other precedes reached
      cases precedes with
      | items less => exact before _ other less reached
  | .table entries =>
      rw [expandValue, convert_eq_error_iff] at failed
      obtain ⟨key, value, route, text, found, failing, before⟩ :=
        exists_entry_failsFirstAt entries exact.1 exact.2 failed
      refine ⟨.entry key :: route, text, failing.of_part found ?_⟩
      intro earlier other precedes reached
      cases precedes with
      | entries less => exact before _ other less reached

theorem exists_item_failsFirstAt (items : List Toml.Value) (exact : Toml.ItemsExact items)
    {failure : Failure} (failed : vars.expandItems environment items = .error failure) :
    ∃ (index : Nat) (item : Toml.Value) (route : Route) (text : String),
      items[index]? = some item ∧ vars.FailsFirstAt environment item failure route text ∧
      ∀ earlier other, earlier < index → items[earlier]? = some other →
        ∃ result, vars.expandValue environment other = .ok result := by
  match items with
  | [] => cases failed
  | item :: rest =>
      rw [expandItems, both_eq_error_iff] at failed
      rcases failed with here | ⟨⟨result, expanded⟩, later⟩
      · obtain ⟨route, text, failing⟩ := exists_failsFirstAt item exact.1 here
        exact ⟨0, item, route, text, rfl, failing, fun _ _ less => absurd less (Nat.not_lt_zero _)⟩
      · obtain ⟨index, found, route, text, reached, failing, before⟩ :=
          exists_item_failsFirstAt rest exact.2 later
        refine ⟨index + 1, found, route, text, reached, failing, ?_⟩
        intro earlier other less stands
        cases earlier with
        | zero =>
            cases stands
            exact ⟨result, expanded⟩
        | succ earlier => exact before earlier other (Nat.lt_of_succ_lt_succ less) stands

theorem exists_entry_failsFirstAt (entries : List (String × Toml.Value))
    (sorted : Table.Sorted entries) (exact : Toml.EntriesExact entries)
    {failure : Failure} (failed : vars.expandEntries environment entries = .error failure) :
    ∃ (key : String) (value : Toml.Value) (route : Route) (text : String),
      Table.get? key entries = some value ∧ vars.FailsFirstAt environment value failure route text ∧
      ∀ earlier other, earlier < key → Table.get? earlier entries = some other →
        ∃ result, vars.expandValue environment other = .ok result := by
  match entries with
  | [] => cases failed
  | (key, value) :: rest =>
      obtain ⟨behind, sortedRest⟩ := List.pairwise_cons.mp sorted
      rw [expandEntries, both_eq_error_iff] at failed
      rcases failed with here | ⟨⟨result, expanded⟩, later⟩
      · obtain ⟨route, text, failing⟩ := exists_failsFirstAt value exact.1 here
        refine ⟨key, value, route, text, by rw [Table.get?, if_pos rfl], failing, ?_⟩
        intro earlier other less stands
        rcases List.mem_cons.mp (Table.mem_of_get? stands) with same | member
        · cases same
          exact absurd less Std.lt_irrefl
        · exact absurd (Std.lt_trans less (behind _ member)) Std.lt_irrefl
      · obtain ⟨found, other, route, text, reached, failing, before⟩ :=
          exists_entry_failsFirstAt rest sortedRest exact.2 later
        have after : key < found := behind _ (Table.mem_of_get? reached)
        refine ⟨found, other, route, text, sorted.get?_of_mem
          (List.mem_cons_of_mem _ (Table.mem_of_get? reached)), failing, ?_⟩
        intro earlier other less stands
        rcases List.mem_cons.mp (Table.mem_of_get? stands) with same | member
        · cases same
          exact ⟨result, expanded⟩
        · exact before earlier other less (Table.Sorted.get?_of_mem sortedRest member)

end

/-- Expansion keeps a value part by part.  Arrays keep their length and tables their keys, and numbers
and truth values stay what they are.  A string becomes a number where it is a single reference that
expands to one of 64 bits, and its expansion otherwise.  It fails exactly where a text in the value has
a reference without a value, with the first one of the first such text. -/
theorem expandValue_part_by_part (vars : Vars) (environment : Environment) {value : Toml.Value}
    (exact : value.Exact) :
    (∀ result, vars.expandValue environment value = .ok result → ∀ route,
      Option.Rel (vars.Becomes environment) (value.at? route) (result.at? route)) ∧
    ((∃ failure, vars.expandValue environment value = .error failure) ↔
      ∃ route text, value.at? route = some (.string text) ∧ vars.HasUndefined environment text) ∧
    ∀ failure, vars.expandValue environment value = .error failure →
      ∃ (route : Route) (text : String) (place : Occurrence text),
        value.at? route = some (.string text) ∧ place.IsFirstUndefined vars environment ∧
        failure = .undefinedVariable place.name ∧
        ∀ earlier other, List.Lex Selector.Before earlier route →
          value.at? earlier = some (.string other) → ¬ vars.HasUndefined environment other := by
  refine ⟨fun result expanded route => ?_, ⟨?_, ?_⟩, fun failure failed => ?_⟩
  · have related := expandValue_at? expanded route
    cases stands : value.at? route with
    | none =>
        rw [Route.eq_none_of_rel related stands]
        exact .none
    | some part =>
        obtain ⟨other, reached, done⟩ := Route.exists_of_rel related stands
        rw [reached]
        exact .some (becomes_of_expandValue (exact.at? stands) done)
  · rintro ⟨failure, failed⟩
    obtain ⟨route, text, failing⟩ := exists_failsFirstAt value exact failed
    exact ⟨route, text, failing.stands, hasUndefined_iff_error.mpr ⟨failure, failing.fails⟩⟩
  · rintro ⟨route, text, stands, undefined⟩
    cases expanded : vars.expandValue environment value with
    | error failure => exact ⟨failure, rfl⟩
    | ok result =>
        exact absurd undefined (not_hasUndefined_iff_ok.mpr (expand_of_at? expanded stands))
  · obtain ⟨route, text, failing⟩ := exists_failsFirstAt value exact failed
    obtain ⟨place, first, same⟩ := expand_eq_error_iff.mp failing.fails
    exact ⟨route, text, place, failing.stands, first, same, fun earlier other precedes stands =>
      not_hasUndefined_iff_ok.mpr (failing.first earlier other precedes stands)⟩

/-- A count with a sign, digits that are no reference, a number that is too large, and a text with two
references, the first of them without a value in the empty environment. -/
def cluster : Toml.Value :=
  .table [("count", .string "$\x7bMASTERS\x7d"),
    ("nodes", .array [.bool true, .integer 7,
      .table [("disk", .string "$\x7bDISK\x7d-$\x7bZONE\x7d"), ("port", .string "6443"),
        ("size", .string "$\x7bBIG\x7d"), ("tag", .string "$\x7bMASTERS\x7dm")]]),
    ("zone", .string "$\x7bZONE\x7d")]

def clusterVars : Vars := ofList [("BIG", "9223372036854775808"), ("MASTERS", "-03")]

def clusterEnvironment : Environment := fun name =>
  if name = "DISK" then some "sda" else if name = "ZONE" then some "b" else none

theorem cluster_parts :
    cluster.Exact ∧
      clusterVars.expandValue clusterEnvironment cluster =
        .ok (.object [("count", .integer (-3)),
          ("nodes", .array [.bool true, .integer 7,
            .object [("disk", .string "sda-b"), ("port", .string "6443"),
              ("size", .string "9223372036854775808"), ("tag", .string "-03m")]]),
          ("zone", .string "b")]) ∧
      (∃ result, clusterVars.expandValue clusterEnvironment cluster = .ok result ∧
        ∀ route, Option.Rel (clusterVars.Becomes clusterEnvironment) (cluster.at? route)
          (result.at? route)) ∧
      clusterVars.expandValue .empty cluster = .error (.undefinedVariable "DISK") ∧
      ∃ (route : Route) (text : String) (place : Occurrence text),
        cluster.at? route = some (.string text) ∧ place.IsFirstUndefined clusterVars .empty ∧
        place.name = "DISK" := by
  have exact : cluster.Exact :=
    ⟨by decide, trivial, ⟨trivial, rfl, ⟨by decide, trivial, trivial, trivial, trivial, trivial⟩,
      trivial⟩, trivial, trivial⟩
  have expanded := (expandValue_part_by_part clusterVars clusterEnvironment exact).1 _ rfl
  have failed : clusterVars.expandValue .empty cluster = .error (.undefinedVariable "DISK") := rfl
  obtain ⟨route, text, place, stands, first, same, -⟩ :=
    (expandValue_part_by_part clusterVars .empty exact).2.2 _ failed
  exact ⟨exact, rfl, ⟨_, rfl, expanded⟩, failed, route, text, place, stands, first,
    (Failure.undefinedVariable.inj same).symm⟩

end Vars

end Groundwork
