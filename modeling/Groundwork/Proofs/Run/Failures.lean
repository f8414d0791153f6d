import Groundwork.Proofs.Run.DryRun
import Groundwork.Proofs.Run.Operations
import Groundwork.Proofs.Vars.Expansion

namespace Groundwork

/-! Which failures the steps of a real run can end with.

An undefined variable is found while a step is resolved, with one exception: the values of a file of
variables are expanded only when they are written.
-/

open Act

namespace Store

theorem removeTree_raises (path : String) : RaisesOnly Failure.isIo (removeTree path) := by
  refine .of_error fun store failure raised => ?_
  unfold removeTree at raised
  split at raised
  · cases raised
    rfl
  · simp only at raised
    split at raised
    · contradiction
    · split at raised
      · contradiction
      · cases raised
        rfl
  · cases raised
    rfl

end Store

namespace Staging

theorem copyPart_error {copying : Copying} {part : Location} {entry : Entry} {store : Store}
    {failure : Failure} (failed : copying.copyPart part entry store = .error failure) :
    failure.isOfCopy = true := by
  unfold Copying.copyPart at failed
  split at failed
  · simp only [bind_eq_error, mapError_eq_error] at failed
    rcases failed with ⟨cause, _, rfl⟩ | ⟨made, _, ⟨cause, _, rfl⟩ | ⟨_, _, impossible⟩⟩
    · rfl
    · rfl
    · contradiction
  · obtain ⟨cause, _, rfl⟩ := mapError_eq_error.mp failed
    rfl

theorem visit_raises (copying : Copying) (part : Location) (entry : Entry) :
    RaisesOnly Failure.isOfCopy (copying.visit part entry) := by
  refine .of_error fun growth failure raised => ?_
  unfold Copying.visit at raised
  split at raised
  · contradiction
  · next failed =>
      cases raised
      exact copyPart_error failed

theorem walk_raises (copying : Copying) (depth : Nat) (part : Location) :
    RaisesOnly Failure.isOfCopy (copying.walk depth part) := by
  induction depth generalizing part with
  | zero => exact .pure ()
  | succ depth ih =>
      refine .bind (.read _) fun children => .forM fun child _ => ?_
      refine .bind (visit_raises copying _ _) fun _ => ?_
      split
      · exact ih _
      · exact .pure _

theorem grow_raises (source destination : String) :
    RaisesOnly Failure.isOfCopy (grow source destination) := by
  refine .of_error fun store failure raised => ?_
  cases prepared : Copying.prepare source destination store with
  | error cause =>
      simp only [grow, prepared, Except.error.injEq] at raised
      exact raised ▸ rfl
  | ok copying =>
      simp only [grow, prepared] at raised
      split at raised
      · next other failed =>
          cases raised
          exact (walk_raises copying _ _ _).fails _ failed
      · split at raised
        · cases raised
          rfl
        · contradiction

theorem copyIfAbsent_raises (source destination : String) :
    RaisesOnly Failure.namesNoVariable (copyIfAbsent source destination) := by
  unfold copyIfAbsent
  refine .bind (.read _) fun isPresent => ?_
  split
  · exact .bind (.log trivial) fun _ => .pure _
  · refine .bind (.read _) fun isDirectory => ?_
    have copies : RaisesOnly Failure.namesNoVariable (do
        Store.makeDirectories (directoryOf destination)
        grow source destination
        return true) :=
      .bind (Store.makeDirectories_obeys (fun _ => rfl) (fun _ _ => trivial) _) fun _ =>
        .bind ((grow_raises _ _).withoutVariables fun _ => rfl) fun _ => .pure _
    dsimp only
    split
    · exact .bind (.throw rfl) fun _ => copies
    · exact copies

theorem removePath_raises (path : String) : RaisesOnly Failure.isIo (removePath path) := by
  unfold removePath
  refine .bind (.read _) fun found => ?_
  have removed : RaisesOnly Failure.isIo (do
      (Act.log .info ("Removed " ++ path) : Act Store PUnit)
      return true) :=
    .bind (.log trivial) fun _ => .pure _
  dsimp only
  split
  · split
    · exact .pure _
    · exact .bind (.throw rfl) fun _ => removed
  · exact .bind (Store.removeTree_raises path) fun _ => removed
  · exact .bind (.change _ (fun _ => rfl) fun _ _ => trivial) fun _ => removed

theorem updateVariables_raises (file : String) (values : Table Json.Value) :
    RaisesOnly Failure.namesNoVariable (updateVariables file values) := by
  unfold updateVariables
  refine .bind ?_ fun _ => ?_
  · unfold storedVariables
    refine .bind (.read _) fun isPresent => ?_
    split
    · exact .pure _
    · refine .bind (.look _ fun _ => rfl) fun text => ?_
      split
      · exact .throw rfl
      · exact .pure _
      · exact .throw rfl
  · exact .bind (.log trivial) fun _ =>
      .bind (Store.makeDirectories_obeys (fun _ => rfl) (fun _ _ => trivial) _) fun _ =>
        .change _ (fun _ => rfl) fun _ _ => trivial

end Staging

namespace Git

theorem cloneBranch_raises (cloner : Cloner) (url branch destination : String) :
    RaisesOnly Failure.isGit (cloneBranch cloner url branch destination) := by
  have performs (fetch : Fetch) : RaisesOnly Failure.isGit (fetch.perform cloner) := by
    refine .of_error fun store failure raised => ?_
    obtain ⟨detail, -, same⟩ := mapError_eq_error.mp raised
    exact same ▸ rfl
  exact .bind (.note trivial) fun _ => .bind (performs _) fun _ => .log trivial

end Git

namespace Command

theorem start_raises (host : Host) (patience : Patience) (command : Command) :
    RaisesOnly Failure.isIo (command.start host patience) := by
  refine .of_error fun machine failure raised => ?_
  unfold start at raised
  split at raised
  · cases raised
    rfl
  · contradiction

theorem run_raises (host : Host) (limit : Option Duration) (command : Command) :
    RaisesOnly Failure.isOfChild (command.run host limit) :=
  run_obeys (fun patience => (start_raises host patience command).mono Failure.isOfChild_of_isIo)
    (fun _ isOfChild => isOfChild) (fun _ => trivial) limit

end Command

namespace Guard

theorem ensure_raises {σ : Type u} {allowed : Failure → Bool} {create : Act σ Unit}
    (creates : RaisesOnly allowed create) (listing : Act σ (List String)) (name : String) :
    RaisesOnly allowed (ensure listing name create) := by
  have lists : Obeys (Law.raising allowed).caught listing :=
    fun _ => ⟨fun _ _ => trivial, trivial, fun _ _ => trivial⟩
  exact ensure_obeys lists creates (fun _ _ => trivial) name

end Guard

namespace Action

variable {context : StepContext}

theorem resolve_tfvars {path : String} {values : List (String × Toml.Value)} {resolved : Action}
    (resolves : (Action.tfvars path values).resolve context = .ok resolved) :
    ∃ file, resolved = .tfvars file values := by
  obtain ⟨file, _, same⟩ := bind_eq_ok.mp resolves
  cases same
  exact ⟨file, rfl⟩

theorem resolve_values {action : Action} {file : String} {values : List (String × Toml.Value)}
    (resolves : action.resolve context = .ok (.tfvars file values)) :
    ∃ path, action = .tfvars path values := by
  cases action with
  | tfvars path others =>
      obtain ⟨_, same⟩ := resolve_tfvars resolves
      cases same
      exact ⟨path, rfl⟩
  | shell | exec | ensureResource | copyIfAbsent | cloneIfAbsent | remove =>
      simp [resolve, bind_eq_ok, pure, Except.pure] at resolves

end Action

namespace LiveRun

theorem runCommand_raises (host : Host) (context : StepContext) (command : Command) :
    RaisesOnly Failure.isOfChild (runCommand host context command) :=
  .bind (Command.run_raises host _ command) fun _ => .pure _

theorem ensureResource_raises (host : Host) (context : StepContext) (name : String)
    (listing : List String) (pattern : Option String) (create : String)
    (directory : Option String) :
    RaisesOnly Failure.namesNoVariable
      (ensureResource host context name listing pattern create directory) := by
  unfold ensureResource
  refine .bind (.ofExcept ?_) fun lister => .bind (.ofExcept ?_) fun extract => .bind ?_ fun made => ?_
  · intro failure refused
    cases listing with
    | nil =>
        cases refused
        rfl
    | cons program arguments => contradiction
  · intro failure refused
    unfold Listing.extraction at refused
    split at refused
    · contradiction
    · split at refused
      · contradiction
      · cases refused
        rfl
  · exact Guard.ensure_raises ((Command.run_raises host _ _).withoutVariables fun _ => rfl) _ _
  · split
    · exact .pure _
    · exact .pure _

theorem perform_raises (host : Host) (context : StepContext) {action : Action}
    (noVariables : ∀ file values, action ≠ .tfvars file values) :
    RaisesOnly Failure.namesNoVariable (perform host context action) := by
  cases action with
  | shell script directory => exact (runCommand_raises host context _).withoutVariables fun _ => rfl
  | exec program arguments directory =>
      exact (runCommand_raises host context _).withoutVariables fun _ => rfl
  | ensureResource name listing pattern create directory =>
      exact ensureResource_raises host context name listing pattern create directory
  | copyIfAbsent source destination =>
      refine .onStore (.bind (Staging.copyIfAbsent_raises source destination) fun copied => ?_)
      split
      · exact .pure _
      · exact .pure _
  | cloneIfAbsent url branch destination =>
      refine .onStore (.bind (.read _) fun isPresent => ?_)
      have clones : RaisesOnly Failure.namesNoVariable (do
          Git.cloneBranch host.cloner url branch destination
          return StepOutcome.ran) :=
        .bind ((Git.cloneBranch_raises host.cloner url branch destination).withoutVariables fun _ => rfl)
          fun _ => .pure _
      split
      · exact .bind (.log trivial) fun _ => .pure _
      · exact clones
  | tfvars file values => exact absurd rfl (noVariables file values)
  | remove path =>
      refine .onStore (.bind ((Staging.removePath_raises path).withoutVariables fun _ => rfl) fun removed => ?_)
      split
      · exact .pure _
      · exact .pure _

theorem setVariables_undefined_iff {context : StepContext} {file : String}
    {values : List (String × Toml.Value)} {store : Store} {name : String} :
    (setVariables context file values store).value = .error (.undefinedVariable name) ↔
      (Toml.entryTexts values).findSome? (context.vars.undefined? context.environment) =
        some name := by
  have failing := context.vars.failure?_expandEntries context.environment values
  cases expanded : context.vars.expandEntries context.environment values with
  | error failure =>
      have raised : (setVariables context file values store).value = .error failure := by
        unfold setVariables
        rw [expanded]
        rfl
      rw [expanded, failure?] at failing
      obtain ⟨missing, found, rfl⟩ := Option.map_eq_some_iff.mp failing.symm
      simp [raised, found]
  | ok members =>
      rw [expanded, failure?, eq_comm, Option.map_eq_none_iff] at failing
      have writes : RaisesOnly Failure.namesNoVariable (setVariables context file values) := by
        unfold setVariables
        rw [expanded]
        exact .bind (.pure members) fun members =>
          .bind (Staging.updateVariables_raises file members) fun _ => .pure _
      rw [failing]
      constructor
      · intro raised
        exact absurd ((writes store).fails _ raised) Bool.false_ne_true
      · intro missing
        contradiction

/-- Of a step that can be resolved a real run finds an undefined variable exactly when the step writes
variables, and then the first one that their values refer to. -/
theorem execute_undefined_iff (host : Host) {step : Step} {context : StepContext}
    {planned : DryRun.Plan} (machine : Machine) (name : String)
    (passes : ∃ outcome, (DryRun.execute step context planned).value = .ok outcome) :
    (execute host step context machine).value = .error (.undefinedVariable name) ↔
      ∃ file values, step.action = .tfvars file values ∧
        (Toml.entryTexts values).findSome? (context.vars.undefined? context.environment) =
          some name := by
  obtain ⟨resolved, resolves⟩ : ∃ resolved, step.action.resolve context = .ok resolved := by
    obtain ⟨outcome, passes⟩ := passes
    rw [DryRun.execute_value] at passes
    cases resolves : step.action.resolve context with
    | error failure => simp [resolves, Except.map] at passes
    | ok resolved => exact ⟨resolved, rfl⟩
  -- What the dry run passes is resolved, so only carrying it out can fail.
  have performed : (execute host step context machine).value =
      (perform host context resolved machine).value := by
    rw [execute, resolves]
    rfl
  rw [performed]
  constructor
  · intro raised
    by_cases writes : ∃ file values, resolved = .tfvars file values
    · obtain ⟨file, values, rfl⟩ := writes
      obtain ⟨path, same⟩ := Action.resolve_values resolves
      exact ⟨path, values, same, setVariables_undefined_iff.mp raised⟩
    · simp only [not_exists] at writes
      exact absurd ((perform_raises host context writes machine).fails _ raised) Bool.false_ne_true
  · rintro ⟨path, values, same, missing⟩
    rw [same] at resolves
    obtain ⟨file, rfl⟩ := Action.resolve_tfvars resolves
    exact setVariables_undefined_iff.mpr missing

/-- The second of the ports is a variable that no one set. -/
def openPorts : Step :=
  .ofAction (.tfvars "vars.json" [("ports", .array [.string "8080", .string "$\x7bPORT\x7d"])])

def bareContext : StepContext :=
  ⟨"open", 1, .empty, .empty, "/work", none, none⟩

theorem openPorts_passes_dry :
    (DryRun.execute openPorts bareContext []).value =
        .ok (.skipped "dry run: set ports in /work/vars.json") ∧
      (execute bareHost openPorts bareContext ⟨.empty, []⟩).value =
        .error (.undefinedVariable "PORT") :=
  ⟨rfl, rfl⟩

theorem openPorts_undefined :
    (∃ outcome, (DryRun.execute openPorts bareContext []).value = .ok outcome) ∧
      ∀ name, (execute bareHost openPorts bareContext ⟨.empty, []⟩).value =
        .error (.undefinedVariable name) ↔ name = "PORT" := by
  have passes : ∃ outcome, (DryRun.execute openPorts bareContext []).value = .ok outcome :=
    ⟨_, rfl⟩
  refine ⟨passes, fun name => (execute_undefined_iff bareHost _ name passes).trans ?_⟩
  constructor
  · rintro ⟨file, values, same, missing⟩
    cases same
    exact (Option.some.inj missing).symm
  · rintro rfl
    exact ⟨_, _, rfl, rfl⟩

end LiveRun

end Groundwork
