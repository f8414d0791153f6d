import Groundwork.Task.Basic
import Groundwork.Vars

namespace Groundwork

/-! Tasks as data.

A step is one flat object: its label, its best-effort flag, its kind and the fields of that kind.
Fields that may be missing have defaults, and fields that no one knows are passed over.
-/

/-- Where the data comes from decides two corners. -/
inductive Encoding where
  | json
  | toml
  deriving DecidableEq, Repr

namespace Action

def encodeDirectory (directory : Option String) : String × Json.Value :=
  ("cwd", .ofOption directory)

def encode (action : Action) : List (String × Json.Value) :=
  ("kind", .string action.kind) ::
    match action with
    | .shell script directory => [("script", .string script), encodeDirectory directory]
    | .exec program arguments directory =>
        [("program", .string program), ("args", .ofStrings arguments), encodeDirectory directory]
    | .ensureResource name listing pattern create directory =>
        [("name", .string name), ("list", .ofStrings listing), ("pattern", .ofOption pattern),
          ("create", .string create), encodeDirectory directory]
    | .copyIfAbsent source destination => [("from", .string source), ("to", .string destination)]
    | .cloneIfAbsent url branch destination =>
        [("url", .string url), ("branch", .string branch), ("dest", .string destination)]
    | .tfvars file values => [("file", .string file), ("set", .object (Toml.embedEntries values))]
    | .remove path => [("path", .string path)]

end Action

namespace Step

def encode (step : Step) : Json.Value :=
  .ofMembers (("label", .ofOption step.label) :: ("best_effort", .bool step.bestEffort) ::
    step.action.encode)

end Step

namespace Field

abbrev Members := List (String × Json.Value)

def text? : Json.Value → Option String
  | .string text => some text
  | _ => none

def textsOf? : List Json.Value → Option (List String)
  | [] => some []
  | .string text :: rest => (textsOf? rest).map (text :: ·)
  | _ :: _ => none

def texts? : Json.Value → Option (List String)
  | .array items => textsOf? items
  | _ => none

/-- Every value must be a text. -/
def varsOf? : List (String × Json.Value) → Option Vars
  | [] => some .empty
  | (key, .string value) :: rest => (varsOf? rest).map (·.set key value)
  | _ :: _ => none

def vars? : Json.Value → Option Vars
  | .object members => varsOf? members
  | _ => none

def flag? : Json.Value → Option Bool
  | .bool value => some value
  | _ => none

/-- Null counts as missing. -/
def optional? : Json.Value → Option (Option String)
  | .null => some none
  | .string text => some (some text)
  | _ => none

def required? {α : Type} (convert : Json.Value → Option α) (key : String) (members : Members) :
    Option α :=
  (Table.get? key members).bind convert

def withDefault? {α : Type} (default : α) (convert : Json.Value → Option α) (key : String)
    (members : Members) : Option α :=
  match Table.get? key members with
  | some value => convert value
  | none => some default

end Field

namespace Action

/-- The kinds in the order of their numbers. -/
def kinds : List String :=
  ["shell", "exec", "ensure_resource", "copy_if_absent", "clone_if_absent", "tfvars", "remove"]

/-- JSON may give a kind by its number. -/
def kindOf? (encoding : Encoding) : Json.Value → Option String
  | .string kind => some kind
  | .integer (.ofNat number) => if encoding = .json then kinds[number]? else none
  | _ => none

def valuesOf? : Json.Value → Option (Table Toml.Value)
  | .object members => Toml.entriesOfJson? members
  | _ => none

def decodeKind? (kind : String) (members : Field.Members) : Option Action := do
  let text := Field.required? Field.text?
  let directory := Field.withDefault? none Field.optional? "cwd" members
  match kind with
  | "shell" => return .shell (← text "script" members) (← directory)
  | "exec" =>
      return .exec (← text "program" members) (← Field.withDefault? [] Field.texts? "args" members)
        (← directory)
  | "ensure_resource" =>
      return .ensureResource (← text "name" members) (← Field.required? Field.texts? "list" members)
        (← Field.withDefault? none Field.optional? "pattern" members) (← text "create" members)
        (← directory)
  | "copy_if_absent" => return .copyIfAbsent (← text "from" members) (← text "to" members)
  | "clone_if_absent" =>
      return .cloneIfAbsent (← text "url" members) (← text "branch" members) (← text "dest" members)
  | "tfvars" => return .tfvars (← text "file" members) (← Field.required? valuesOf? "set" members)
  | "remove" => return .remove (← text "path" members)
  | _ => none

def decode? (encoding : Encoding) (members : Field.Members) : Option Action :=
  match (Table.get? "kind" members).bind (kindOf? encoding) with
  | some kind => decodeKind? kind members
  | none => none

end Action

namespace Step

def decode? (encoding : Encoding) : Json.Value → Option Step
  | .object members => do
      let label ← Field.withDefault? none Field.optional? "label" members
      let bestEffort ← Field.withDefault? false Field.flag? "best_effort" members
      let action ← Action.decode? encoding members
      return ⟨label, bestEffort, action⟩
  | _ => none

def decodeAll? (encoding : Encoding) : List Json.Value → Option (List Step)
  | [] => some []
  | item :: rest =>
      match decode? encoding item, decodeAll? encoding rest with
      | some step, some steps => some (step :: steps)
      | _, _ => none

def decodeList? (encoding : Encoding) : Json.Value → Option (List Step)
  | .array items => decodeAll? encoding items
  | _ => none

end Step

namespace Task

/-- The fields of a task, in the order that a list gives them. -/
def fieldNames : List String := ["name", "description", "needs", "step"]

/-- A task may also be written as the list of its fields. -/
def membersOf? (encoding : Encoding) : Json.Value → Option Field.Members
  | .object members => some members
  | .array items =>
      if encoding = .json ∧ fieldNames.length < items.length then none
      else some (fieldNames.zip items)
  | _ => none

def decode? (encoding : Encoding) (value : Json.Value) : Option Task := do
  let members ← membersOf? encoding value
  let name ← Field.required? Field.text? "name" members
  let description ← Field.withDefault? none Field.optional? "description" members
  let needs ← Field.withDefault? [] Field.texts? "needs" members
  let steps ← Field.withDefault? [] (Step.decodeList? encoding) "step" members
  return ⟨name, description, needs, steps⟩

def decodeAll? (encoding : Encoding) : List Json.Value → Option (List Task)
  | [] => some []
  | item :: rest =>
      match decode? encoding item, decodeAll? encoding rest with
      | some task, some tasks => some (task :: tasks)
      | _, _ => none

def decodeList? (encoding : Encoding) : Json.Value → Option (List Task)
  | .array items => decodeAll? encoding items
  | _ => none

end Task

end Groundwork
