import Groundwork.Proofs.Act
import Groundwork.Proofs.Path
import Groundwork.Proofs.Vars.Defaults
import Groundwork.Taskfile.Location

namespace Groundwork

/-! Where the staging directory of a configuration lies for the steps of a taskfile. -/

namespace Config

theorem toVars_staging {config : Config} {home : Option String} {base : String} {vars : Vars}
    (unset : config.vars.get? Name.staging = none)
    (effective : config.toVars home base = .ok vars) :
    vars.get? Name.staging = some (config.staging home base) := by
  obtain ⟨count, _, same⟩ := bind_eq_ok.mp effective
  cases same
  rw [Vars.get?_setAll_of_unset unset]
  exact Table.get?_insert_self _ _ _

end Config

theorem Store.workDirectory_eq_ok {store : Store} {path : String}
    (found : store.workDirectory = .ok path) : path = pathOf store.current := by
  unfold workDirectory at found
  split at found
  · cases found
    rfl
  · contradiction

theorem Store.isAbsolute_pathOf (place : Location) : Path.isAbsolute (pathOf place) = true := by
  rw [pathOf, Path.isAbsolute_append (by decide)]
  rfl

namespace Taskfile

variable {store : Store} {taskfile : Taskfile}

theorem parse_baseDirectory {text directory : String} {source : Source}
    (parsed : parse text source directory = .ok taskfile) : taskfile.baseDirectory = directory := by
  unfold parse at parsed
  split at parsed
  · contradiction
  · split at parsed
    · contradiction
    · cases parsed
      rfl

theorem noted_value {found : Taskfile} (value : (noted found store).value = .ok taskfile) :
    taskfile = found := by
  cases value
  rfl

theorem load_baseDirectory {path : String} (loaded : (load path store).value = .ok taskfile) :
    taskfile.baseDirectory = (Path.directory? path).getD (Store.pathOf store.current) := by
  obtain ⟨text, _, opened⟩ := Act.andThen_eq_ok.mp loaded
  rw [Act.look_state] at opened
  have parsed {directory : String}
      (value : ((Act.ofExcept (parse text (.file path) directory)).andThen noted store).value =
        .ok taskfile) : taskfile.baseDirectory = directory := by
    obtain ⟨found, accepted, ended⟩ := Act.andThen_eq_ok.mp value
    rw [noted_value ended, parse_baseDirectory accepted]
  cases beside : Path.directory? path with
  | some directory =>
      rw [beside] at opened
      exact parsed opened
  | none =>
      rw [beside] at opened
      obtain ⟨directory, here, opened⟩ := Act.andThen_eq_ok.mp opened
      rw [Act.look_state] at opened
      exact (parsed opened).trans (Store.workDirectory_eq_ok (Act.look_eq_ok.mp here))

theorem load_absolute {path : String} (absolute : Path.isAbsolute path = true)
    (loaded : (load path store).value = .ok taskfile) :
    Path.isAbsolute taskfile.baseDirectory = true := by
  rw [load_baseDirectory loaded]
  cases beside : Path.directory? path with
  | some directory => exact (Path.directory?_isAbsolute beside).2.trans absolute
  | none => exact Store.isAbsolute_pathOf _

/-- Only a taskfile that was asked for by a relative path with a directory in it has a relative base. -/
theorem locate_baseDirectory {asked : Option String} {config : Config} {home : Option String}
    {workDirectory : String} (rooted : Path.isAbsolute workDirectory = true)
    (located : (locate asked config home workDirectory store).value = .ok taskfile) :
    Path.isAbsolute taskfile.baseDirectory = true ∨
      ∃ path, asked = some path ∧ Path.directory? path = some taskfile.baseDirectory := by
  have nonempty : workDirectory ≠ "" := fun empty => by simp [empty, Path.isAbsolute] at rooted
  have below (path : String) : Path.isAbsolute (Path.join workDirectory path) = true := by
    rw [Path.isAbsolute_join_eq nonempty, rooted, Bool.true_or]
  cases asked with
  | some path =>
      change (load path store).value = .ok taskfile at located
      have base := load_baseDirectory located
      cases beside : Path.directory? path with
      | some directory =>
          rw [beside] at base
          exact .inr ⟨path, rfl, base ▸ beside⟩
      -- A bare name lies in the working directory of the store, which is known by its full path.
      | none =>
          rw [base, beside]
          exact .inl (Store.isAbsolute_pathOf _)
  | none =>
      refine .inl ?_
      unfold locate at located
      cases given : config.taskfilePath home with
      | some path =>
          rw [given] at located
          exact load_absolute (below path) located
      | none =>
          rw [given] at located
          obtain ⟨isThere, _, chosen⟩ := Act.andThen_eq_ok.mp located
          cases isThere with
          | true => exact load_absolute (below fileName) chosen
          | false =>
              simp only [Bool.false_eq_true, ↓reduceIte] at chosen
              obtain ⟨_, _, ended⟩ := Act.andThen_eq_ok.mp chosen
              rw [noted_value ended]
              exact rooted

end Taskfile

namespace StepContext

/-- A step finds its staging directory where the configuration puts it, unless the taskfile was asked
for by a relative path with a directory in it.  Then the base is relative too, and a relative staging
directory is joined onto it twice. -/
theorem resolvePath_staging_iff {asked : Option String} {config : Config} {home : Option String}
    {workDirectory part : String} {store : Store} {taskfile : Taskfile} {context : StepContext}
    (rooted : Path.isAbsolute workDirectory = true)
    (located : (Taskfile.locate asked config home workDirectory store).value = .ok taskfile)
    (unset : config.vars.get? Config.Name.staging = none)
    (effective : config.toVars home taskfile.baseDirectory = .ok context.vars)
    (based : context.baseDirectory = taskfile.baseDirectory)
    (relative : Path.isAbsolute part = false) (plain : Vars.IsPlain part) :
    let base := taskfile.baseDirectory
    let given := Path.expandHome home (config.stagingDirectory.getD Config.defaultStagingDirectory)
    let staging := config.staging home base
    let resolved := Path.join base (staging ++ "/" ++ part)
    context.resolvePath ("$\x7bSTAGING_DIR\x7d/" ++ part) = .ok resolved ∧
      (Path.Same resolved (Path.join staging part) ↔
        Path.isAbsolute base = true ∨ Path.isAbsolute given = true ∨ Path.components base = []) ∧
      (Path.isAbsolute base = false → ∃ path, asked = some path ∧ Path.isAbsolute path = false ∧
        Path.directory? path = some base) := by
  intro base given staging resolved
  have beside := Taskfile.locate_baseDirectory rooted located
  have nonempty : base ≠ "" := by
    rcases beside with absolute | ⟨path, _, found⟩
    · exact fun empty => by simp [base, Path.isAbsolute, empty] at absolute
    · exact (Path.directory?_isAbsolute found).1
  have named : Vars.IsName Config.Name.staging := ⟨'S', "TAGING_DIR".toList, rfl, rfl, rfl⟩
  have known : context.vars.lookup context.environment Config.Name.staging = some staging := by
    rw [Vars.lookup, Config.toVars_staging unset effective]
    rfl
  have text : "$\x7bSTAGING_DIR\x7d/" ++ part =
      "$\x7b" ++ Config.Name.staging ++ "\x7d" ++ ("/" ++ part) := by
    rw [← String.append_assoc]
    rfl
  have expanded : context.expand ("$\x7bSTAGING_DIR\x7d/" ++ part) =
      .ok (staging ++ "/" ++ part) := by
    rw [expand, text, Vars.expand_reference named known,
      Vars.expand_plain (Vars.isPlain_slash plain), String.append_assoc]
    rfl
  have resolves : context.resolvePath ("$\x7bSTAGING_DIR\x7d/" ++ part) = .ok resolved := by
    rw [resolvePath, expanded, based]
    rfl
  refine ⟨resolves, Path.same_join_join_iff nonempty relative, fun baseRelative => ?_⟩
  rcases beside with absolute | ⟨path, isAsked, found⟩
  · exact absurd (baseRelative.symm.trans absolute) Bool.false_ne_true
  · exact ⟨path, isAsked, (Path.directory?_isAbsolute found).2.symm.trans baseRelative, found⟩

/-- An empty taskfile in a directory below the working directory. -/
def nestedStore : Store :=
  ⟨[(["work"], .directory 0o755), (["work", "sub"], .directory 0o755),
    (["work", "sub", "tasks.toml"], .file .empty 0o644)], ["work"]⟩

def cleaning (vars : Vars) (baseDirectory : String) : StepContext :=
  ⟨"clean", 1, vars, .empty, baseDirectory, none, none⟩

theorem nested_resolves_twice :
    ∃ taskfile vars,
      (Taskfile.locate (some "sub/tasks.toml") {} none "/work" nestedStore).value = .ok taskfile ∧
      Config.toVars {} none taskfile.baseDirectory = .ok vars ∧
      (cleaning vars taskfile.baseDirectory).resolvePath "$\x7bSTAGING_DIR\x7d/r" =
        .ok "sub/sub/build/r" ∧
      Path.join (Config.staging {} none taskfile.baseDirectory) "r" = "sub/build/r" ∧
      ¬ Path.Same "sub/sub/build/r" "sub/build/r" :=
  ⟨_, _, rfl, rfl, rfl, rfl, by decide⟩

/-- The same taskfile named by the configuration lies at an absolute path. -/
theorem nested_resolves :
    (∃ taskfile vars resolved,
      (Taskfile.locate (some "sub/tasks.toml") {} none "/work" nestedStore).value = .ok taskfile ∧
      Config.toVars {} none taskfile.baseDirectory = .ok vars ∧
      (cleaning vars taskfile.baseDirectory).resolvePath "$\x7bSTAGING_DIR\x7d/r" = .ok resolved ∧
      ¬ Path.Same resolved "sub/build/r") ∧
    ∃ taskfile vars resolved,
      (Taskfile.locate none { taskfile := some "sub/tasks.toml" } none "/work" nestedStore).value =
        .ok taskfile ∧
      Config.toVars { taskfile := some "sub/tasks.toml" } none taskfile.baseDirectory = .ok vars ∧
      (cleaning vars taskfile.baseDirectory).resolvePath "$\x7bSTAGING_DIR\x7d/r" = .ok resolved ∧
      Path.Same resolved "/work/sub/build/r" := by
  have plain : Vars.IsPlain "r" := fun name member => by cases List.mem_singleton.mp member
  constructor
  · have located : (Taskfile.locate (some "sub/tasks.toml") {} none "/work" nestedStore).value =
        .ok ⟨.file "sub/tasks.toml", "sub", .empty, []⟩ := rfl
    obtain ⟨vars, effective⟩ : ∃ vars, Config.toVars {} none "sub" = .ok vars := ⟨_, rfl⟩
    have based : (cleaning vars "sub").baseDirectory = "sub" := rfl
    obtain ⟨resolves, once, _⟩ :=
      resolvePath_staging_iff rfl located rfl effective based rfl plain
    exact ⟨_, vars, _, located, effective, resolves, mt once.mp (by decide)⟩
  · have located : (Taskfile.locate none { taskfile := some "sub/tasks.toml" } none "/work"
        nestedStore).value = .ok ⟨.file "/work/sub/tasks.toml", "/work/sub", .empty, []⟩ := rfl
    obtain ⟨vars, effective⟩ : ∃ vars,
        Config.toVars { taskfile := some "sub/tasks.toml" } none "/work/sub" = .ok vars := ⟨_, rfl⟩
    have based : (cleaning vars "/work/sub").baseDirectory = "/work/sub" := rfl
    obtain ⟨resolves, once, _⟩ :=
      resolvePath_staging_iff rfl located rfl effective based rfl plain
    exact ⟨_, vars, _, located, effective, resolves, once.mpr (by decide)⟩

end StepContext

end Groundwork
