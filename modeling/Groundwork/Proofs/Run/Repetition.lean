import Groundwork.Proofs.Run.Failures
import Groundwork.Proofs.Staging.Copy
import Groundwork.Proofs.Staging.Removal
import Groundwork.Proofs.Staging.Variables
import Groundwork.Proofs.Vars.Values

namespace Groundwork

/-! Steps that change files settle: what one has done once stays when it is done again. -/

namespace Act

universe u v

variable {σ : Type u} {α β : Type v}

/-- Where the operation is done, it is done again and leaves the state as it is. -/
def SettlesAt (state : σ) (act : Act σ α) : Prop :=
  ∀ value, (act state).value = .ok value →
    (∃ again, (act (act state).state).value = .ok again) ∧
      (act (act state).state).state = (act state).state

theorem SettlesAt.onStore {act : Act Store α} {machine : Machine}
    (settles : act.SettlesAt machine.store) : act.onStore.SettlesAt machine := by
  intro value done
  obtain ⟨again, same⟩ := settles value done
  exact ⟨again, congrArg (Machine.mk · machine.started) same⟩

theorem SettlesAt.ofExcept {found : Except Failure α} {next : α → Act σ β} {state : σ}
    (settles : ∀ value, found = .ok value → (next value).SettlesAt state) :
    ((Act.ofExcept found).andThen next).SettlesAt state := by
  cases found with
  | error failure =>
      intro value done
      cases done
  | ok value => exact settles value rfl

theorem SettlesAt.andThen_done {act : Act σ α} {state : σ} (settles : act.SettlesAt state)
    (convert : α → β) : (act.andThen fun value => .done (convert value)).SettlesAt state := by
  intro result done
  obtain ⟨value, state_eq⟩ := Act.andThen_done act convert state
  rw [state_eq]
  obtain ⟨valueAgain, stateAgain⟩ := Act.andThen_done act convert (act state).state
  rw [valueAgain, stateAgain]
  rw [value] at done
  cases first : (act state).value with
  | error failure =>
      rw [first] at done
      cases done
  | ok between =>
      obtain ⟨⟨again, found⟩, same⟩ := settles between first
      exact ⟨⟨convert again, by rw [found]; rfl⟩, same⟩

end Act

namespace Staging

open Store

variable {store : Store} {path : String}

theorem copyIfAbsent_settles (formed : WellFormed store) (source destination : String) :
    (copyIfAbsent source destination).SettlesAt store := by
  intro copied done
  suffices present : (copyIfAbsent source destination store).state.isPresent destination = true by
    obtain ⟨value, state⟩ := copyIfAbsent_of_present source present
    exact ⟨⟨false, value⟩, state⟩
  cases present : store.isPresent destination with
  | true => rwa [(copyIfAbsent_of_present source present).2]
  | false =>
  cases template : store.isDirectory source with
  | false =>
      obtain ⟨⟨failure, failed⟩, -⟩ := copyIfAbsent_of_no_template present template
      cases failed.symm.trans done
  | true =>
  cases above : (makeDirectories (directoryOf destination) store).value with
  | error failure =>
      cases (copyIfAbsent_of_blocked present template above).1.symm.trans done
  | ok =>
  obtain ⟨value, state⟩ := copyIfAbsent_of_made present template above
  rw [value] at done
  cases grew : (grow source destination
      (makeDirectories (directoryOf destination) store).state).value with
  | error failure =>
      rw [grew] at done
      cases done
  | ok =>
      obtain ⟨origin, place, finished⟩ := grow_finished formed template above grew
      rw [state]
      exact isPresent_iff.mpr ⟨_, _, finished.arrives.led⟩

theorem removePath_settles (store : Store) (path : String) : (removePath path).SettlesAt store := by
  intro removed done
  obtain ⟨value, state⟩ := removePath_again done
  exact ⟨⟨false, value⟩, state⟩

/-- What an update may find and leave at a path: no floating-point numbers, and no device. -/
structure Settled (store : Store) (path : String) : Prop where
  floatFree : ∀ stored, Reads store path stored → (Json.Value.object stored).FloatFree
  plain : store.isPresent path = false →
    ∀ place, (prepared path store).entryAt true path ≠ .ok (place, .sink)

theorem updateVariables_settles (formed : WellFormed store) (settled : Settled store path)
    {values : Table Json.Value} (plain : (Json.Value.object values).Plain) :
    (updateVariables path values).SettlesAt store := by
  intro value done
  have holds : ∃ stored, Holds store path stored ∧ (Json.Value.object stored).FloatFree := by
    cases present : store.isPresent path with
    | false => exact ⟨[], .absent present (settled.plain present), trivial⟩
    | true =>
        by_cases object : ∃ stored, Reads store path stored
        · obtain ⟨stored, reads⟩ := object
          exact ⟨stored, .object reads, settled.floatFree stored reads⟩
        · obtain ⟨⟨failure, failed⟩, -⟩ :=
            updateVariables_of_other present (not_exists.mp object) values
          cases failed.symm.trans done
  obtain ⟨stored, holds, free⟩ := holds
  have sorted := (Json.plain_object_iff.mp plain).1
  obtain ⟨again, same⟩ := updateVariables_again formed holds (holds.plain free) plain done values
  rw [Table.merge_self sorted] at same
  exact ⟨⟨(), again⟩, same⟩

end Staging

namespace LiveRun

variable {store : Store}

theorem copyIfAbsent_settles (formed : Store.WellFormed store) (source destination : String) :
    (copyIfAbsent source destination).SettlesAt store := by
  have same : copyIfAbsent source destination =
      (Staging.copyIfAbsent source destination).andThen fun copied =>
        .done (if copied then .ran else .skipped (destination ++ " already exists")) := by
    refine congrArg (Act.andThen _) (funext fun copied => ?_)
    cases copied <;> rfl
  rw [same]
  exact (Staging.copyIfAbsent_settles formed source destination).andThen_done _

theorem remove_settles (store : Store) (path : String) : (remove path).SettlesAt store := by
  have same : remove path = (Staging.removePath path).andThen fun removed =>
      .done (if removed then .ran else .skipped (path ++ " does not exist")) := by
    refine congrArg (Act.andThen _) (funext fun removed => ?_)
    cases removed <;> rfl
  rw [same]
  exact (Staging.removePath_settles store path).andThen_done _

theorem perform_tfvars {context : StepContext} {path : String} {values : List (String × Toml.Value)}
    {members : Table Json.Value}
    (expands : context.vars.expandEntries context.environment values = .ok members) (host : Host)
    (machine : Machine) :
    (perform host context (.tfvars path values) machine).value =
        (Staging.updateVariables path members machine.store).value.map (fun _ => .ran) ∧
      (perform host context (.tfvars path values) machine).state.store =
        (Staging.updateVariables path members machine.store).state := by
  have same : setVariables context path values machine.store =
      ((Staging.updateVariables path members).andThen fun _ => .done .ran) machine.store := by
    simp [setVariables, expands, Act.ofExcept, bind, Act.andThen, pure]
  obtain ⟨value, state⟩ := Act.andThen_done (Staging.updateVariables path members)
    (fun _ => StepOutcome.ran) machine.store
  rw [← same] at value state
  exact ⟨value, state⟩

theorem setVariables_settles (formed : Store.WellFormed store) {context : StepContext} {path : String}
    (settled : Staging.Settled store path) {values : List (String × Toml.Value)}
    (exact : (Toml.Value.table values).Exact)
    (shallow : (Toml.Value.table values).nesting < Json.depthLimit) :
    (setVariables context path values).SettlesAt store := by
  refine .ofExcept fun members expanded => ?_
  have plain := Vars.plain_expandEntries exact shallow expanded
  exact (Staging.updateVariables_settles formed settled plain).andThen_done _

theorem execute_of_resolve (host : Host) {step : Step} {context : StepContext} {resolved : Action}
    (resolves : step.action.resolve context = .ok resolved) :
    execute host step context = perform host context resolved := by
  funext machine
  simp [execute, resolves, Act.ofExcept, Act.andThen]

/-- A step that changes files only.  Values that go into a file of variables are whole numbers or no
numbers, and are not nested past what is read from such a file. -/
def Settles (context : StepContext) (store : Store) : Action → Prop
  | .copyIfAbsent .. | .remove .. => True
  | .tfvars file values =>
      (Toml.Value.table values).Exact ∧ (Toml.Value.table values).nesting < Json.depthLimit ∧
        ∀ path, context.resolvePath file = .ok path → Staging.Settled store path
  | _ => False

/-- A step that is done is done again, and leaves the machine as it is. -/
theorem execute_again (host : Host) (step : Step) (context : StepContext) (machine : Machine)
    (formed : Store.WellFormed machine.store)
    (settles : Settles context machine.store step.action) {outcome : StepOutcome}
    (done : (execute host step context machine).value = .ok outcome) :
    (∃ again, (execute host step context (execute host step context machine).state).value =
        .ok again) ∧
      (execute host step context (execute host step context machine).state).state =
        (execute host step context machine).state := by
  have settled : (execute host step context).SettlesAt machine := by
    refine .ofExcept fun resolved resolves => ?_
    generalize step.action = action at settles resolves
    cases action with
    | copyIfAbsent source destination =>
        obtain ⟨fullSource, -, later⟩ := bind_eq_ok.mp resolves
        obtain ⟨fullDestination, -, same⟩ := bind_eq_ok.mp later
        cases same
        exact (copyIfAbsent_settles formed fullSource fullDestination).onStore
    | remove path =>
        obtain ⟨full, -, same⟩ := bind_eq_ok.mp resolves
        cases same
        exact (remove_settles machine.store full).onStore
    | tfvars file values =>
        obtain ⟨full, found, same⟩ := bind_eq_ok.mp resolves
        cases same
        obtain ⟨exact, shallow, settled⟩ := settles
        exact (setVariables_settles formed (settled full found) exact shallow).onStore
    | shell | exec | ensureResource | cloneIfAbsent => cases settles
  exact settled outcome done

/-- Paths start at the current directory. -/
def hereContext : StepContext :=
  ⟨"settle", 1, .empty, .empty, "", none, none⟩

def copyTemplate : Step :=
  .ofAction (.copyIfAbsent "tpl" "gen/out")

def setCount : Step :=
  .ofAction (.tfvars "a.json" [("count", .array [.integer 2, .string "x"])])

theorem variableFiles_settled : Staging.Settled Staging.variableFiles "a.json" := by
  refine ⟨fun stored reads => ?_, fun missing => ?_⟩
  · exact Staging.variableFiles_reads.unique reads ▸ Staging.zones_floatFree
  · rw [Staging.variableFiles_reads.isPresent] at missing
    cases missing

theorem setCount_done :
    (execute bareHost setCount hereContext ⟨Staging.variableFiles, []⟩).value = .ok .ran := by
  have resolves : setCount.action.resolve hereContext =
    .ok (.tfvars "a.json" [("count", .array [.integer 2, .string "x"])]) := rfl
  have expands : hereContext.vars.expandEntries hereContext.environment
      [("count", .array [.integer 2, .string "x"])] =
    .ok [("count", .array [.integer 2, .string "x"])] := rfl
  obtain ⟨_, _, _, writes⟩ :=
    Staging.updateVariables_of_reads Staging.variableFiles_formed Staging.variableFiles_reads
  have written := (writes [("count", .array [.integer 2, .string "x"])]).1
  rw [execute_of_resolve bareHost resolves, (perform_tfvars expands bareHost _).1, written]
  rfl

/-- A copy is there when it is made again, and the count is set when it is set again. -/
theorem steps_done_again :
    (∃ again, (execute bareHost copyTemplate hereContext
      (execute bareHost copyTemplate hereContext ⟨Staging.templates "../main.tf", []⟩).state).value =
        .ok again) ∧
    (execute bareHost setCount hereContext
      (execute bareHost setCount hereContext ⟨Staging.variableFiles, []⟩).state).state =
        (execute bareHost setCount hereContext ⟨Staging.variableFiles, []⟩).state := by
  have copies : copyTemplate.action.resolve hereContext = .ok (.copyIfAbsent "tpl" "gen/out") := rfl
  have copied : (execute bareHost copyTemplate hereContext
      ⟨Staging.templates "../main.tf", []⟩).value = .ok .ran := by
    rw [execute_of_resolve bareHost copies]
    rfl
  have formed : Store.WellFormed (Staging.templates "../main.tf") := by decide
  have settles : Settles hereContext Staging.variableFiles setCount.action := by
    refine ⟨?_, by decide, fun path found => ?_⟩
    · simp only [Toml.Value.Exact, Toml.EntriesExact, Toml.ItemsExact]
      decide
    · cases found
      exact variableFiles_settled
  obtain ⟨again, -⟩ := execute_again bareHost copyTemplate hereContext _ formed trivial copied
  obtain ⟨-, same⟩ := execute_again bareHost setCount hereContext ⟨Staging.variableFiles, []⟩
    Staging.variableFiles_formed settles setCount_done
  exact ⟨again, same⟩

/-- As many tables in each other as asked for. -/
def nestedTable : Nat → Toml.Value
  | 0 => .integer 1
  | depth + 1 => .table [("a", nestedTable depth)]

theorem nestedTable_shape (depth : Nat) :
    (nestedTable depth).Exact ∧ (nestedTable depth).nesting = depth := by
  induction depth with
  | zero => exact ⟨by simp only [nestedTable, Toml.Value.Exact]; decide, rfl⟩
  | succ depth ih =>
      obtain ⟨exact, nested⟩ := ih
      constructor
      · exact ⟨List.pairwise_singleton _ _, exact, trivial⟩
      · simp [nestedTable, Toml.Value.nesting, Toml.entriesNesting, nested]

theorem nestedTable_expands (vars : Vars) (environment : Environment) (depth : Nat) :
    ∃ value, vars.expandValue environment (nestedTable depth) = .ok value := by
  induction depth with
  | zero => exact ⟨_, rfl⟩
  | succ depth ih =>
      obtain ⟨value, expanded⟩ := ih
      refine ⟨.object [("a", value)], ?_⟩
      simp [nestedTable, Vars.expandValue, Vars.expandEntries, expanded, bind, Except.bind, pure,
        Except.pure]

def deepStep : Step :=
  .ofAction (.tfvars "deep.json" [("a", nestedTable 127)])

/-- A path that comes to a device once `gen` is there. -/
def deviceStep : Step :=
  .ofAction (.tfvars "gen/../dev/null" [("a", .integer 1)])

def deviceStore : Store :=
  { entries := [(["dev"], .directory Store.directoryMode), (["dev", "null"], .sink)]
    current := [] }

theorem device_done_once :
    (Staging.updateVariables "gen/../dev/null" [("a", .integer 1)] deviceStore).value = .ok () ∧
      ∃ failure, (Staging.updateVariables "gen/../dev/null" [("a", .integer 1)]
        (Staging.updateVariables "gen/../dev/null" [("a", .integer 1)] deviceStore).state).value =
          .error failure := by
  have missing : deviceStore.isPresent "gen/../dev/null" = false := rfl
  obtain ⟨value, state⟩ := Staging.updateVariables_of_ready
    (Staging.storedVariables_of_missing missing) rfl
    (show (Staging.prepared "gen/../dev/null" deviceStore).placeFor "gen/../dev/null" = .ok none from rfl)
    [("a", .integer 1)]
  refine ⟨value, ?_⟩
  rw [state]
  refine (Staging.updateVariables_of_other rfl (fun members reads => ?_) _).1
  obtain ⟨_, _, _, file⟩ := reads.entry
  have device : (Staging.prepared "gen/../dev/null" deviceStore).entryAt true "gen/../dev/null" =
    .ok (["dev", "null"], .sink) := rfl
  cases device.symm.trans file

theorem deep_done_once {members : Table Json.Value}
    (exact : (Json.Value.object members).Exact)
    (deep : Json.depthLimit ≤ (Json.Value.object members).nesting) :
    (Staging.updateVariables "deep.json" members .empty).value = .ok () ∧
      ∃ failure, (Staging.updateVariables "deep.json" members
        (Staging.updateVariables "deep.json" members .empty).state).value = .error failure := by
  have missing : Store.empty.isPresent "deep.json" = false := rfl
  have done := (Staging.updateVariables_of_ready (Staging.storedVariables_of_missing missing) rfl
    (show (Staging.prepared "deep.json" .empty).placeFor "deep.json" =
      .ok (some (["deep.json"], Store.fileMode)) from rfl) members).1
  have nowhere : (Staging.prepared "deep.json" .empty).entryAt true "deep.json" = .error .notFound := rfl
  have holds : Staging.Holds .empty "deep.json" [] := by
    refine .absent missing fun place device => ?_
    cases nowhere.symm.trans device
  exact ⟨done, Staging.updateVariables_deep (by decide) holds exact deep done members⟩

/-- A step that sets variables fails the second time when the update does. -/
theorem execute_once {step : Step} {context : StepContext} {path : String} {store : Store}
    {values : List (String × Toml.Value)} {members : Table Json.Value}
    (resolves : step.action.resolve context = .ok (.tfvars path values))
    (expands : context.vars.expandEntries context.environment values = .ok members)
    (once : (Staging.updateVariables path members store).value = .ok () ∧
      ∃ failure, (Staging.updateVariables path members
        (Staging.updateVariables path members store).state).value = .error failure) (host : Host) :
    (execute host step context ⟨store, []⟩).value = .ok .ran ∧
      ∃ failure, (execute host step context (execute host step context ⟨store, []⟩).state).value =
        .error failure := by
  obtain ⟨done, failure, failed⟩ := once
  rw [execute_of_resolve host resolves]
  obtain ⟨value, state⟩ := perform_tfvars expands host ⟨store, []⟩
  refine ⟨value.trans (by rw [done]; rfl), failure, ?_⟩
  rw [(perform_tfvars expands host _).1, state, failed]
  rfl

/-- What is nested too deep, or has gone to a device, is written once and cannot be read again. -/
theorem steps_done_once :
    ((execute bareHost deepStep hereContext ⟨.empty, []⟩).value = .ok .ran ∧
      ∃ failure, (execute bareHost deepStep hereContext
        (execute bareHost deepStep hereContext ⟨.empty, []⟩).state).value = .error failure) ∧
    (execute bareHost deviceStep hereContext ⟨deviceStore, []⟩).value = .ok .ran ∧
      ∃ failure, (execute bareHost deviceStep hereContext
        (execute bareHost deviceStep hereContext ⟨deviceStore, []⟩).state).value = .error failure := by
  constructor
  · obtain ⟨value, expanded⟩ := nestedTable_expands hereContext.vars hereContext.environment 127
    obtain ⟨exact, nested⟩ := nestedTable_shape 127
    obtain ⟨exactValue, nestedValue⟩ := Vars.expandValue_shape _ exact expanded
    have expands : hereContext.vars.expandEntries hereContext.environment [("a", nestedTable 127)] =
        .ok [("a", value)] := by
      simp [Vars.expandEntries, expanded, bind, Except.bind, pure, Except.pure]
    have resolves : deepStep.action.resolve hereContext =
      .ok (.tfvars "deep.json" [("a", nestedTable 127)]) := rfl
    refine execute_once resolves expands (deep_done_once ?_ ?_) bareHost
    · exact ⟨List.pairwise_singleton _ _, exactValue, trivial⟩
    · simp [Json.Value.nesting, Json.membersNesting, nestedValue, nested, Json.depthLimit]
  · have resolves : deviceStep.action.resolve hereContext =
      .ok (.tfvars "gen/../dev/null" [("a", .integer 1)]) := rfl
    have expands : hereContext.vars.expandEntries hereContext.environment [("a", .integer 1)] =
      .ok [("a", .integer 1)] := rfl
    exact execute_once resolves expands device_done_once bareHost

end LiveRun

end Groundwork
