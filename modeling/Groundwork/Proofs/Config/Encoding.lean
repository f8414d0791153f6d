import Groundwork.Config.Basic
import Groundwork.Proofs.Task.Encoding

namespace Groundwork

/-! Declarations, steps and configurations alike, are what their encodings are decoded to. -/

namespace Config

theorem countBelow?_encodeCount {limit : Nat} (option : Option (Fin limit)) :
    countBelow? limit (encodeCount option) = some option := by
  cases option with
  | none => rfl
  | some count => exact dif_pos count.isLt

def members (config : Config) : Field.Members :=
  [("branch", .ofOption config.branch), ("image", .ofOption config.image),
    ("master_count", encodeCount config.masterCount),
    ("staging_dir", .ofOption config.stagingDirectory), ("taskfile", .ofOption config.taskfile),
    ("step_timeout_secs", encodeCount config.stepTimeoutSeconds), ("vars", .ofTable config.vars.entries)]

theorem members_distinct (config : Config) : (Table.keys config.members).Nodup :=
  of_decide_eq_true rfl

theorem decode?_encode (config : Config) : config.encode.members?.bind decode? = some config := by
  obtain ⟨branch, image, masters, staging, taskfile, seconds, vars⟩ :=
    Field.found_of_distinct config.members_distinct
  have flat : config.encode = .object (Table.ofList config.members) := rfl
  rw [flat, Json.Value.members?, Option.bind_some]
  simp [decode?, Field.withDefault?_of_found _ branch, Field.withDefault?_of_found _ image,
    Field.withDefault?_of_found _ masters, Field.withDefault?_of_found _ staging,
    Field.withDefault?_of_found _ taskfile, Field.withDefault?_of_found _ seconds,
    Field.withDefault?_of_found _ vars, Field.optional?_ofOption, countBelow?_encodeCount,
    Field.vars?_ofTable]

end Config

namespace Encoding

/-- Decoding undoes encoding, for steps of every kind and for configurations. -/
theorem declarations_kept (encoding : Encoding) :
    (∀ step : Step, step.action.Storable → Step.decode? encoding step.encode = some step) ∧
      ∀ config : Config, config.encode.members?.bind Config.decode? = some config :=
  ⟨fun _ storable => Step.decode?_encode encoding storable, Config.decode?_encode⟩

def networkStep : Step where
  label := none
  bestEffort := true
  action := .tfvars "net.json"
    [("dhcp", .bool false),
      ("hosts", .array [.table [("name", .string "vm1"), ("port", .integer 22)], .table []])]

def labConfig : Config where
  branch := some "release"
  masterCount := some ⟨1, by decide⟩
  stepTimeoutSeconds := some ⟨0, by decide⟩
  vars := .ofList [("KUBECONFIG", "build/config"), ("WORKERS", "")]

theorem networkStep_kept :
    networkStep.action.Storable ∧ Step.decode? .toml networkStep.encode = some networkStep ∧
      labConfig.encode.members?.bind Config.decode? = some labConfig := by
  have storable : networkStep.action.Storable := by
    refine ⟨by decide, ⟨trivial, ⟨⟨by decide, ?_⟩, ⟨by decide, trivial⟩, trivial⟩, trivial⟩, ?_⟩
    · exact ⟨trivial, rfl, trivial⟩
    · simp [Toml.EntriesUndated, Toml.ItemsUndated, Toml.Value.Undated, Table.keys,
        Toml.datetimeKey]
  obtain ⟨steps, configs⟩ := declarations_kept .toml
  exact ⟨storable, steps networkStep storable, configs labConfig⟩

end Encoding

end Groundwork
