import Groundwork.Proofs.Table
import Groundwork.Proofs.Vars.Values
import Groundwork.Task.Encoding
import Mathlib.Data.List.Basic

namespace Groundwork

/-! Steps are what their encodings are decoded to.

The members of a step and those of its action share one object.  An action is decoded from any object
that carries its members, whatever else is in it, and so the two are not taken for each other.
-/

namespace Toml

mutual

/-- No date or time, and no table that could be taken for one. -/
def Value.Undated : Value → Prop
  | .datetime _ => False
  | .array items => ItemsUndated items
  | .table entries => datetimeKey ∉ Table.keys entries ∧ EntriesUndated entries
  | _ => True

def ItemsUndated : List Value → Prop
  | [] => True
  | item :: rest => item.Undated ∧ ItemsUndated rest

def EntriesUndated : List (String × Value) → Prop
  | [] => True
  | (_, value) :: rest => value.Undated ∧ EntriesUndated rest

end

theorem keys_embedEntries (entries : List (String × Value)) :
    Table.keys (embedEntries entries) = Table.keys entries := by
  induction entries with
  | nil => rfl
  | cons entry rest ih => exact congrArg (entry.1 :: ·) ih

theorem Value.ofJson?_object {members : List (String × Json.Value)}
    (undated : datetimeKey ∉ Table.keys members) :
    Value.ofJson? (.object members) = (entriesOfJson? members).map .table := by
  cases members with
  | nil => rfl
  | cons member rest =>
      obtain ⟨key, value⟩ := member
      have different : key ≠ datetimeKey := fun same => undated (same ▸ List.mem_cons_self)
      rw [Value.ofJson?, if_neg different, entriesOfJson?]
      cases Value.ofJson? value with
      | none => rfl
      | some first => cases entriesOfJson? rest <;> rfl

mutual

theorem Value.ofJson?_embed (value : Value) (exact : value.Exact) (undated : value.Undated) :
    Value.ofJson? value.embed = some value := by
  match value with
  | .string text => rfl
  | .integer number => exact if_pos exact
  | .float bits => cases exact
  | .bool flag => rfl
  | .datetime time => cases undated
  | .array items =>
      rw [Value.embed, Value.ofJson?, itemsOfJson?_embedItems items exact undated]
      rfl
  | .table entries =>
      rw [Value.embed, Value.ofJson?_object (by rw [keys_embedEntries]; exact undated.1),
        entriesOfJson?_embedEntries entries exact.1 exact.2 undated.2]
      rfl

theorem itemsOfJson?_embedItems (items : List Value) (exact : ItemsExact items)
    (undated : ItemsUndated items) : itemsOfJson? (embedItems items) = some items := by
  match items with
  | [] => rfl
  | item :: rest =>
      rw [embedItems, itemsOfJson?, Value.ofJson?_embed item exact.1 undated.1,
        itemsOfJson?_embedItems rest exact.2 undated.2]

theorem entriesOfJson?_embedEntries (entries : List (String × Value))
    (sorted : Table.Sorted entries) (exact : EntriesExact entries)
    (undated : EntriesUndated entries) : entriesOfJson? (embedEntries entries) = some entries := by
  match entries with
  | [] => rfl
  | (key, value) :: rest =>
      obtain ⟨before, tail⟩ := List.pairwise_cons.mp sorted
      rw [embedEntries, entriesOfJson?, Value.ofJson?_embed value exact.1 undated.1,
        entriesOfJson?_embedEntries rest tail exact.2 undated.2]
      exact congrArg some (Table.insert_of_before before)

end

end Toml

namespace Field

theorem optional?_ofOption (option : Option String) : optional? (.ofOption option) = some option := by
  cases option <;> rfl

theorem texts?_ofStrings (texts : List String) : texts? (.ofStrings texts) = some texts := by
  have each : textsOf? (texts.map .string) = some texts := by
    induction texts with
    | nil => rfl
    | cons text rest ih => rw [List.map_cons, textsOf?, ih, Option.map_some]
  exact each

theorem vars?_ofTable (vars : Vars) : vars? (.ofTable vars.entries) = some vars := by
  have each (entries : Table String) (sorted : entries.Sorted) :
      varsOf? (entries.mapValues .string) = some ⟨entries, sorted⟩ := by
    induction entries with
    | nil => rfl
    | cons entry rest ih =>
        obtain ⟨before, tail⟩ := List.pairwise_cons.mp sorted
        have later : varsOf? (Table.mapValues .string rest) = some ⟨rest, tail⟩ := ih tail
        rw [Table.mapValues, List.map_cons, varsOf?, ← Table.mapValues, later, Option.map_some]
        simp only [Vars.set, Table.insert_of_before before]
  exact each vars.entries vars.sorted

variable {α : Type} {convert : Json.Value → Option α} {key : String} {value : Json.Value}
  {members : Members}

theorem found_of_distinct (distinct : (Table.keys members).Nodup) :
    members.Forall fun member => Table.get? member.1 (Table.ofList members) = some member.2 :=
  List.forall_iff_forall_mem.mpr fun _ listed =>
    (Table.get?_ofList_of_distinct distinct).trans (Table.get?_of_mem distinct listed)

theorem required?_of_found (found : Table.get? key members = some value) :
    required? convert key members = convert value := by
  rw [required?, found, Option.bind_some]

theorem withDefault?_of_found (default : α) (found : Table.get? key members = some value) :
    withDefault? default convert key members = convert value := by
  rw [withDefault?, found]

end Field

namespace Action

/-- What the values of an action must be for it to be told from its encoding. -/
def Storable : Action → Prop
  | .tfvars _ values =>
      Table.Sorted values ∧ Toml.EntriesExact values ∧ Toml.EntriesUndated values
  | _ => True

/-- Every member of the action is found among these. -/
def CarriedBy (action : Action) (members : Field.Members) : Prop :=
  action.encode.Forall fun member => Table.get? member.1 members = some member.2

theorem decodeKind?_of_carriedBy {action : Action} {members : Field.Members}
    (storable : action.Storable) (carried : action.CarriedBy members) :
    decodeKind? action.kind members = some action := by
  have text {key text : String} (found : Table.get? key members = some (.string text)) :
      Field.required? Field.text? key members = some text := Field.required?_of_found found
  have option {key : String} {option : Option String}
      (found : Table.get? key members = some (.ofOption option)) :
      Field.withDefault? none Field.optional? key members = some option :=
    (Field.withDefault?_of_found _ found).trans (Field.optional?_ofOption option)
  have place {directory : Option String}
      (found : Table.get? "cwd" members = some (.ofOption directory)) :
      Field.withDefault? none Field.optional? "cwd" members = some directory := option found
  cases action with
  | shell script directory =>
      obtain ⟨-, foundScript, foundDirectory⟩ := carried
      simp [decodeKind?, kind, text foundScript, place foundDirectory]
  | exec program arguments directory =>
      obtain ⟨-, foundProgram, foundArguments, foundDirectory⟩ := carried
      simp [decodeKind?, kind, text foundProgram, Field.withDefault?_of_found [] foundArguments,
        Field.texts?_ofStrings, place foundDirectory]
  | ensureResource name listing pattern create directory =>
      obtain ⟨-, foundName, foundListing, foundPattern, foundCreate, foundDirectory⟩ := carried
      simp [decodeKind?, kind, text foundName, Field.required?_of_found foundListing,
        Field.texts?_ofStrings, option foundPattern, text foundCreate, place foundDirectory]
  | copyIfAbsent source destination =>
      obtain ⟨-, foundSource, foundDestination⟩ := carried
      simp [decodeKind?, kind, text foundSource, text foundDestination]
  | cloneIfAbsent url branch destination =>
      obtain ⟨-, foundUrl, foundBranch, foundDestination⟩ := carried
      simp [decodeKind?, kind, text foundUrl, text foundBranch, text foundDestination]
  | tfvars file values =>
      obtain ⟨-, foundFile, foundValues⟩ := carried
      obtain ⟨sorted, exact, undated⟩ := storable
      have read : valuesOf? (.object (Toml.embedEntries values)) = some values :=
        Toml.entriesOfJson?_embedEntries values sorted exact undated
      simp [decodeKind?, kind, text foundFile, Field.required?_of_found foundValues, read]
  | remove path =>
      obtain ⟨-, foundPath⟩ := carried
      simp [decodeKind?, kind, text foundPath]

theorem decode?_of_carriedBy {action : Action} {members : Field.Members} (encoding : Encoding)
    (storable : action.Storable) (carried : action.CarriedBy members) :
    decode? encoding members = some action := by
  have tag : Table.get? "kind" members = some (.string action.kind) :=
    List.forall_iff_forall_mem.mp carried _ List.mem_cons_self
  rw [decode?, tag, Option.bind_some, kindOf?]
  exact decodeKind?_of_carriedBy storable carried

end Action

namespace Step

def members (step : Step) : Field.Members :=
  ("label", .ofOption step.label) :: ("best_effort", .bool step.bestEffort) :: step.action.encode

theorem members_distinct (step : Step) : (Table.keys step.members).Nodup := by
  obtain ⟨label, bestEffort, action⟩ := step
  cases action <;> exact of_decide_eq_true rfl

theorem decode?_encode (encoding : Encoding) {step : Step} (storable : step.action.Storable) :
    decode? encoding step.encode = some step := by
  obtain ⟨label, flag, carried⟩ := Field.found_of_distinct step.members_distinct
  have flat : step.encode = .object (Table.ofList step.members) := rfl
  rw [flat]
  simp [decode?, Field.withDefault?_of_found _ label, Field.optional?_ofOption,
    Field.withDefault?_of_found _ flag, Field.flag?, Action.decode?_of_carriedBy encoding storable
    carried]

end Step

end Groundwork
