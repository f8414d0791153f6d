import Groundwork.CommandLine.Dispatch
import Groundwork.Proofs.Act
import Groundwork.Proofs.Config.Overrides
import Groundwork.Proofs.Vars.Defaults

namespace Groundwork

/-! The variables that a configuration and a taskfile come to.

Four layers lie over one another: the fields of the configuration file, the overrides of the environment,
the table of variables in the same file, and the defaults of the taskfile.  The table is written last over
what the fields and the overrides give; the defaults only fill gaps.
-/

theorem ok_of_toOption {ε : Type u} {α : Type v} {value : Except ε α} {result : α}
    (found : value.toOption = some result) : value = .ok result := by
  cases value with
  | error failure => contradiction
  | ok value =>
      cases found
      rfl

namespace Config

variable {home : Option String} {base path : String} {environment : Environment} {store : Store}
  {config file : Config} {vars : Vars}

/-- Overrides reach the fields of a configuration, never its table of variables. -/
theorem applyOverrides_ok (overridden : file.applyOverrides environment = (config, none)) :
    config.branch = (environment.nonempty Name.branch).or file.branch ∧
      config.image = (environment.nonempty Name.image).or file.image ∧
      config.vars = file.vars := by
  have applied := applyOverrides_eq_ok_iff.mp overridden
  exact ⟨overrides_text.mp applied.branch, overrides_text.mp applied.image, applied.vars⟩

theorem loadEffective_ok (loaded : (loadEffective home environment store).value = .ok config) :
    ∃ path file, path? home = .ok path ∧ (load path store).value = .ok file ∧
      file.applyOverrides environment = (config, none) := by
  obtain ⟨path, located, rest⟩ := Act.andThen_eq_ok.mp loaded
  obtain ⟨file, read, applied⟩ := Act.andThen_eq_ok.mp rest
  refine ⟨path, file, located, read, ?_⟩
  generalize file.applyOverrides environment = result at applied ⊢
  obtain ⟨effective, failure⟩ := result
  cases failure with
  | none =>
      cases applied
      rfl
  | some failure => cases applied

/-- What a configuration says by its fields, under the names that steps know. -/
def standard (config : Config) (home : Option String) (base : String) (count : Nat) : Table String :=
  [(Name.branch, config.effectiveBranch), (Name.image, config.effectiveImage),
    (Name.masterCount, toString count), (Name.staging, config.staging home base)]

theorem standard_sorted (config : Config) (home : Option String) (base : String) (count : Nat) :
    (config.standard home base count).Sorted := by
  have names : Table.Sorted
      [(Name.branch, ()), (Name.image, ()), (Name.masterCount, ()), (Name.staging, ())] := by decide
  simpa [Table.Sorted, standard] using names

theorem get?_toVars (effective : config.toVars home base = .ok vars) :
    ∃ count, config.effectiveMasterCount = .ok count ∧ ∀ name, vars.get? name =
      (config.vars.get? name).or (Table.get? name (config.standard home base count)) := by
  obtain ⟨count, counted, same⟩ := bind_eq_ok.mp effective
  cases same
  refine ⟨count, counted, fun name => ?_⟩
  have below := Vars.get?_setAll (config.standard_sorted home base count) .empty name
  rw [Vars.get?_setAll config.vars.sorted]
  exact congrArg _ (below.trans (Option.or_none ..))

/-- The text of a number of masters that the installer supports. -/
def IsMasterCount (text : String) : Prop :=
  ∃ count, 1 ≤ count ∧ count ≤ maxMasterCount ∧ text = toString count

theorem isMasterCount_of_effective {count : Nat}
    (effective : config.effectiveMasterCount = .ok count) : IsMasterCount (toString count) := by
  unfold effectiveMasterCount at effective
  split at effective
  · contradiction
  · next requested =>
      cases effective
      exact ⟨_, by simp only [maxMasterCount]; omega, Nat.min_le_right _ _, rfl⟩

end Config

namespace CommandLine

variable {host : Host} {store : Store} {setting : Setting} {vars : Vars}

theorem variablesOf_ok (effective : variablesOf host setting = .ok vars) :
    ∃ layered, setting.config.toVars host.home setting.taskfile.baseDirectory = .ok layered ∧
      Vars.addDefaults (environmentOf host).nonempty (environmentOf host)
        setting.taskfile.vars.entries layered = (vars, none) := by
  obtain ⟨layered, found, added⟩ := bind_eq_ok.mp effective
  refine ⟨layered, found, ?_⟩
  generalize Vars.addDefaults _ _ _ layered = result at added ⊢
  obtain ⟨final, failure⟩ := result
  cases failure with
  | none =>
      cases added
      rfl
  | some failure => cases added

/-- Steps see a supported number of masters, and the branch and the image that the environment asks for,
exactly where the table of variables in the configuration file does not say otherwise. -/
theorem variablesOf_standard_iff
    (loaded : (Config.loadEffective host.home (environmentOf host) store).value =
      .ok setting.config)
    (effective : variablesOf host setting = .ok vars) :
    ∃ path file, Config.path? host.home = .ok path ∧
      (Config.load path store).value = .ok file ∧
      ((∃ text, vars.get? Config.Name.masterCount = some text ∧ Config.IsMasterCount text) ↔
        ∀ text, file.vars.get? Config.Name.masterCount = some text → Config.IsMasterCount text) ∧
      ∀ name ∈ [Config.Name.branch, Config.Name.image], ∀ value,
        (environmentOf host).nonempty name = some value →
        (vars.get? name = some value ↔
          ∀ other, file.vars.get? name = some other → other = value) := by
  obtain ⟨path, file, located, read, overridden⟩ := Config.loadEffective_ok loaded
  obtain ⟨branch, image, table⟩ := Config.applyOverrides_ok overridden
  obtain ⟨layered, toVars, added⟩ := variablesOf_ok effective
  obtain ⟨count, counted, layeredGet⟩ := Config.get?_toVars toVars
  -- What the fields say holds unless the table has an entry of the name.
  have final (name standard : String) (said : Table.get? name (setting.config.standard host.home
      setting.taskfile.baseDirectory count) = some standard) :
      vars.get? name = some ((file.vars.get? name).getD standard) := by
    refine Vars.get?_addDefaults_of_set added ?_
    rw [layeredGet, said, table]
    cases file.vars.get? name <;> rfl
  refine ⟨path, file, located, read, ?_, ?_⟩
  · rw [final _ (toString count) rfl]
    cases own : file.vars.get? Config.Name.masterCount with
    | none => simpa using Config.isMasterCount_of_effective counted
    | some text => simp
  · intro name standard value asked
    have said : Table.get? name (setting.config.standard host.home
        setting.taskfile.baseDirectory count) = some value := by
      simp only [List.mem_cons, List.not_mem_nil, or_false] at standard
      rcases standard with rfl | rfl
      · change some setting.config.effectiveBranch = some value
        rw [Config.effectiveBranch, branch, asked]
        rfl
      · change some setting.config.effectiveImage = some value
        rw [Config.effectiveImage, image, asked]
        rfl
    rw [final _ _ said]
    cases own : file.vars.get? name with
    | none => simp
    | some other => simp

/-- A taskfile without variables of its own. -/
def bareTaskfile : Taskfile := ⟨.builtin, "/work", .empty, []⟩

/-- The environment asks for a branch. -/
def branchHost : Host :=
  { bareHost with environment := [("BMI_BRANCH", "feature"), ("HOME", "/home")], home := some "/home" }

/-- Holds a configuration file. -/
def configured (text : String) : Store :=
  ⟨[(["home"], .directory 0o755), (["home", ".bminfra"], .directory 0o755),
    (["home", ".bminfra", "bminfra.toml"], .file text.toUTF8 0o644)], []⟩

/-- The table names a branch and a number of masters. -/
def tableText : String := "[vars]\nBMI_BRANCH = \"main\"\nNUM_MASTERS = \"7\"\n"

theorem tableText_wins :
    ∃ config vars,
      (Config.loadEffective branchHost.home (environmentOf branchHost)
        (configured tableText)).value = .ok config ∧
      variablesOf branchHost ⟨config, bareTaskfile⟩ = .ok vars ∧
      vars.get? "NUM_MASTERS" = some "7" ∧ ¬ Config.IsMasterCount "7" ∧
      (environmentOf branchHost).nonempty "BMI_BRANCH" = some "feature" ∧
      vars.get? "BMI_BRANCH" = some "main" := by
  have loaded : (Config.loadEffective branchHost.home (environmentOf branchHost)
      (configured tableText)).value.toOption = some
        { branch := some "feature", vars := .ofList [("BMI_BRANCH", "main"), ("NUM_MASTERS", "7")] } := by
    decide +kernel
  have unsupported : ¬ Config.IsMasterCount "7" := by
    rintro ⟨count, low, high, same⟩
    have few : count = 1 ∨ count = 2 ∨ count = 3 := by
      simp only [Config.maxMasterCount] at high
      omega
    rcases few with rfl | rfl | rfl
    · exact absurd same (by decide)
    · exact absurd same (by decide)
    · exact absurd same (by decide)
  exact ⟨_, _, ok_of_toOption loaded, rfl, rfl, unsupported, rfl, rfl⟩

/-- The table names neither. -/
def fieldText : String := "master_count = 5\n[vars]\nPROFILE = \"ci\"\n"

/-- What the fields come to, with a taskfile that would have more masters. -/
def fieldSetting : Setting :=
  ⟨{ branch := some "feature", masterCount := some ⟨5, by decide⟩, vars := .ofList [("PROFILE", "ci")] },
    { bareTaskfile with vars := .ofList [("NUM_MASTERS", "9")] }⟩

theorem fieldText_variables :
    ∃ vars,
      (Config.loadEffective branchHost.home (environmentOf branchHost)
        (configured fieldText)).value = .ok fieldSetting.config ∧
      variablesOf branchHost fieldSetting = .ok vars ∧
      (∃ text, vars.get? "NUM_MASTERS" = some text ∧ Config.IsMasterCount text) ∧
      vars.get? "BMI_BRANCH" = some "feature" := by
  have loaded : (Config.loadEffective branchHost.home (environmentOf branchHost)
      (configured fieldText)).value = .ok fieldSetting.config := ok_of_toOption (by decide +kernel)
  obtain ⟨vars, effective⟩ : ∃ vars, variablesOf branchHost fieldSetting = .ok vars := ⟨_, rfl⟩
  obtain ⟨path, file, located, read, masters, asked⟩ := variablesOf_standard_iff loaded effective
  have place : Config.path? branchHost.home = .ok "/home/.bminfra/bminfra.toml" := rfl
  obtain rfl := Except.ok.inj (place.symm.trans located)
  have table : (Config.load "/home/.bminfra/bminfra.toml" (configured fieldText)).value =
      .ok { masterCount := some ⟨5, by decide⟩, vars := .ofList [("PROFILE", "ci")] } :=
    ok_of_toOption (by decide +kernel)
  obtain rfl := Except.ok.inj (table.symm.trans read)
  refine ⟨vars, loaded, effective, masters.mpr ?_, ?_⟩
  · intro text listed
    cases listed
  · refine (asked _ List.mem_cons_self "feature" rfl).mpr ?_
    intro other listed
    cases listed

/-- The value of a default is what its text stands for in the end, unless it refers to a default that
comes no earlier and that the environment sets to nothing: such a reference has read the empty text, and
it was right only if the variable ends up empty. -/
theorem variablesOf_consistent_iff {layered : Vars} {key text : String}
    (toVars : setting.config.toVars host.home setting.taskfile.baseDirectory = .ok layered)
    (effective : variablesOf host setting = .ok vars)
    (member : (key, text) ∈ setting.taskfile.vars.entries) (unset : layered.get? key = none)
    (notGiven : (environmentOf host).nonempty key = none) :
    ∃ value whole, vars.get? key = some value ∧
      vars.expand (environmentOf host) text = .ok whole ∧
      (value = whole ↔ ∀ name, .reference name ∈ Vars.pieces text →
        Vars.IsPending layered setting.taskfile.vars.entries (environmentOf host) key name →
        vars.get? name = some "") := by
  obtain ⟨same, found, added⟩ := variablesOf_ok effective
  cases toVars.symm.trans found
  have sorted := setting.taskfile.vars.sorted
  obtain ⟨before, after, split⟩ := List.append_of_mem member
  rw [split] at sorted added ⊢
  obtain ⟨between, earlier, later⟩ := Vars.addDefaults_append_ok added
  have unsetBetween : between.get? key = none :=
    (Vars.get?_addDefaults_of_no_default earlier
      (Vars.get?_before_of_turn sorted Std.lt_irrefl)).trans unset
  rcases Vars.addDefaults_cons_ok later with ⟨_, present, _⟩ | ⟨value, _, choice, rest⟩
  · simp [unsetBetween] at present
  · have expanded : between.expand (environmentOf host) text = .ok value := by
      rcases choice with given | ⟨_, expanded⟩
      · simp [notGiven] at given
      · exact expanded
    obtain ⟨whole, final, agrees⟩ := Vars.expand_at_turn_iff sorted earlier later expanded
    have stored : vars.get? key = some value :=
      Vars.get?_addDefaults_of_set rest (by rw [Vars.get?_set, if_pos rfl])
    exact ⟨value, whole, stored, final, agrees⟩

/-- The default of one variable refers to the next one. -/
def diskTaskfile : Taskfile :=
  { bareTaskfile with vars := .ofList [("DISK", "$\x7bIMAGES\x7d/disk"), ("IMAGES", "/srv")] }

def imagesHost (images : String) : Host :=
  { bareHost with environment := [("IMAGES", images)] }

theorem disk_reads_nothing :
    ∃ vars, variablesOf (imagesHost "") ⟨{}, diskTaskfile⟩ = .ok vars ∧
      vars.get? "DISK" = some "/disk" ∧ vars.get? "IMAGES" = some "/srv" ∧
      vars.expand (environmentOf (imagesHost "")) "$\x7bIMAGES\x7d/disk" = .ok "/srv/disk" :=
  ⟨_, rfl, rfl, rfl, rfl⟩

theorem disk_consistent_iff :
    (∃ vars value, variablesOf (imagesHost "") ⟨{}, diskTaskfile⟩ = .ok vars ∧
      vars.get? "DISK" = some value ∧
      vars.expand (environmentOf (imagesHost "")) "$\x7bIMAGES\x7d/disk" ≠ .ok value) ∧
    ∃ vars value, variablesOf (imagesHost "/images") ⟨{}, diskTaskfile⟩ = .ok vars ∧
      vars.get? "DISK" = some value ∧
      vars.expand (environmentOf (imagesHost "/images")) "$\x7bIMAGES\x7d/disk" = .ok value := by
  constructor
  · obtain ⟨layered, toVars⟩ : ∃ layered, Config.toVars {} none "/work" = .ok layered := ⟨_, rfl⟩
    obtain ⟨vars, effective⟩ : ∃ vars, variablesOf (imagesHost "") ⟨{}, diskTaskfile⟩ = .ok vars :=
      ⟨_, rfl⟩
    cases toVars
    obtain ⟨value, whole, stored, expanded, agrees⟩ :=
      variablesOf_consistent_iff rfl effective List.mem_cons_self rfl rfl
    refine ⟨vars, value, effective, stored, ?_⟩
    rw [expanded]
    intro same
    cases effective
    have empty := agrees.mp (Except.ok.inj same).symm "IMAGES" (by decide)
      ⟨rfl, ⟨_, rfl⟩, by decide, rfl⟩
    contradiction
  · obtain ⟨vars, effective⟩ : ∃ vars, variablesOf (imagesHost "/images") ⟨{}, diskTaskfile⟩ =
      .ok vars := ⟨_, rfl⟩
    obtain ⟨value, whole, stored, expanded, agrees⟩ :=
      variablesOf_consistent_iff rfl effective List.mem_cons_self rfl rfl
    refine ⟨vars, value, effective, stored, ?_⟩
    rw [expanded, agrees.mpr]
    intro name member pending
    have empty := pending.empty
    simp [environmentOf, imagesHost, Table.get?] at empty

end CommandLine

end Groundwork
