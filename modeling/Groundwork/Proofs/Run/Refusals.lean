import Groundwork.Proofs.Run.Failures

namespace Groundwork

/-! What a refused step leaves behind: nothing.

Everything that a step can be refused for is looked at before its first effect.  An operation that only
looks is idle; whatever comes behind the first effect fails in other ways.
-/

namespace Failure

/-- The failures that say that a step cannot be carried out as it is declared. -/
def isRefusal : Failure → Bool
  | .undefinedVariable _ | .regex _ | .json _ | .validation _ => true
  | _ => false

def isOfEffect (failure : Failure) : Bool :=
  !failure.isRefusal

theorem isOfEffect_of_isOfChild (failure : Failure) (isOfChild : failure.isOfChild = true) :
    failure.isOfEffect = true := by
  cases failure with
  | undefinedVariable | regex | json | validation => contradiction
  | _ => rfl

theorem isOfEffect_of_isOfCopy (failure : Failure) (isOfCopy : failure.isOfCopy = true) :
    failure.isOfEffect = true := by
  cases failure with
  | undefinedVariable | regex | json | validation => contradiction
  | _ => rfl

theorem isOfEffect_of_isGit (failure : Failure) (isGit : failure.isGit = true) :
    failure.isOfEffect = true := by
  cases failure with
  | git detail => rfl
  | _ => contradiction

end Failure

namespace Act

universe u v

variable {σ : Type u} {α β : Type v}

/-- Where the operation is refused, nothing has been changed and nothing has been said. -/
def RefusedIdle (act : Act σ α) : Prop :=
  ∀ state failure, (act state).value = .error failure → failure.isRefusal = true →
    act state = ⟨.error failure, state, []⟩

namespace RefusedIdle

theorem ofRaises {act : Act σ α} (raises : RaisesOnly Failure.isOfEffect act) : RefusedIdle act := by
  intro state failure raised refused
  have effect : failure.isOfEffect = true := (raises state).fails failure raised
  rw [Failure.isOfEffect, refused] at effect
  contradiction

theorem behindIdle {act : Act σ α} {next : α → Act σ β} (first : Idle act)
    (later : ∀ value, RefusedIdle (next value)) : RefusedIdle (act >>= next) := by
  intro state failure raised refused
  change (act.andThen next state).value = .error failure at raised
  change act.andThen next state = ⟨.error failure, state, []⟩
  rw [andThen, first.eq state] at raised ⊢
  cases value : (act state).value with
  | error other =>
      simp only [value] at raised ⊢
      rw [raised]
  | ok result =>
      simp only [value] at raised ⊢
      rw [later result state failure raised refused]
      rfl

/-- What comes behind the first effect is never refused. -/
theorem beforeEffect {act : Act σ α} {next : α → Act σ β} (first : RefusedIdle act)
    (later : ∀ value, RaisesOnly Failure.isOfEffect (next value)) : RefusedIdle (act >>= next) := by
  intro state failure raised refused
  change (act.andThen next state).value = .error failure at raised
  change act.andThen next state = ⟨.error failure, state, []⟩
  cases value : (act state).value with
  | error other =>
      rw [andThen, value] at raised ⊢
      cases raised
      rw [first state failure value refused]
  | ok result =>
      rw [andThen, value] at raised
      have effect : failure.isOfEffect = true :=
        (later result (act state).state).fails failure raised
      rw [Failure.isOfEffect, refused] at effect
      contradiction

theorem onStore {α : Type v} {act : Act Store α} (idle : RefusedIdle act) :
    RefusedIdle act.onStore := by
  intro machine failure raised refused
  rw [Act.onStore, idle machine.store failure raised refused]

end RefusedIdle

end Act

open Act

namespace Staging

theorem copyIfAbsent_refused (source destination : String) :
    RefusedIdle (copyIfAbsent source destination) := by
  unfold copyIfAbsent
  refine .behindIdle (.read _) fun isPresent => ?_
  split
  · exact .ofRaises (.bind (.log trivial) fun _ => .pure _)
  · refine .behindIdle (.read _) fun isDirectory => ?_
    have copies : RefusedIdle (do
        Store.makeDirectories (directoryOf destination)
        grow source destination
        return true) :=
      .ofRaises (.bind (Store.makeDirectories_obeys (fun _ => rfl) (fun _ _ => trivial) _) fun _ =>
        .bind ((grow_raises _ _).mono Failure.isOfEffect_of_isOfCopy) fun _ => .pure _)
    dsimp only
    split
    · exact .behindIdle (.throw trivial) fun _ => copies
    · exact copies

theorem storedVariables_idle (file : String) : Idle (storedVariables file) := by
  unfold storedVariables
  refine .bind (.read _) fun isPresent => ?_
  split
  · exact .pure _
  · refine .bind (.look _ fun _ => trivial) fun text => ?_
    split
    · exact .throw trivial
    · exact .pure _
    · exact .throw trivial

theorem updateVariables_refused (file : String) (values : Table Json.Value) :
    RefusedIdle (updateVariables file values) := by
  refine .behindIdle (storedVariables_idle file) fun stored => .ofRaises ?_
  refine .bind (.log trivial) fun _ => ?_
  exact .bind (Store.makeDirectories_obeys (fun _ => rfl) (fun _ _ => trivial) _) fun _ =>
    .change _ (fun _ => rfl) fun _ _ => trivial

end Staging

namespace LiveRun

theorem ensureResource_refused (host : Host) (context : StepContext) (name : String)
    (listing : List String) (pattern : Option String) (create : String)
    (directory : Option String) :
    RefusedIdle (ensureResource host context name listing pattern create directory) := by
  refine .behindIdle (.ofExcept fun _ _ => trivial) fun lister => .behindIdle (.ofExcept fun _ _ => trivial) fun extract => ?_
  have creates : RaisesOnly Failure.isOfEffect
      ((Command.shell create directory context.vars.entries).run host context.timeout) :=
    (Command.run_raises host _ _).mono Failure.isOfEffect_of_isOfChild
  refine .ofRaises (.bind (Guard.ensure_raises creates _ _) fun made => ?_)
  split
  · exact .pure _
  · exact .pure _

theorem setVariables_refused (context : StepContext) (file : String)
    (values : List (String × Toml.Value)) : RefusedIdle (setVariables context file values) :=
  .behindIdle (.ofExcept fun _ _ => trivial) fun members =>
    .beforeEffect (Staging.updateVariables_refused file members) fun _ => .pure _

theorem perform_refused (host : Host) (context : StepContext) (action : Action) :
    RefusedIdle (perform host context action) := by
  cases action with
  | shell script directory =>
      exact .ofRaises ((runCommand_raises host context _).mono Failure.isOfEffect_of_isOfChild)
  | exec program arguments directory =>
      exact .ofRaises ((runCommand_raises host context _).mono Failure.isOfEffect_of_isOfChild)
  | ensureResource name listing pattern create directory =>
      exact ensureResource_refused host context name listing pattern create directory
  | copyIfAbsent source destination =>
      refine .onStore (.beforeEffect (Staging.copyIfAbsent_refused source destination) fun copied => ?_)
      split
      · exact .pure _
      · exact .pure _
  | cloneIfAbsent url branch destination =>
      refine .onStore (.behindIdle (.read _) fun isPresent => .ofRaises ?_)
      have clones : RaisesOnly Failure.isOfEffect (do
          Git.cloneBranch host.cloner url branch destination
          return StepOutcome.ran) :=
        .bind ((Git.cloneBranch_raises _ url branch destination).mono Failure.isOfEffect_of_isGit)
          fun _ => .pure _
      split
      · exact .bind (.log trivial) fun _ => .pure _
      · exact clones
  | tfvars file values => exact .onStore (setVariables_refused context file values)
  | remove path =>
      refine .onStore (.beforeEffect (.ofRaises ?_) fun removed => ?_)
      · exact (Staging.removePath_raises path).mono fun failure isIo =>
          failure.isOfEffect_of_isOfChild (failure.isOfChild_of_isIo isIo)
      · split
        · exact .pure _
        · exact .pure _

/-- A step that is refused has started no child, begun no clone and changed no file.  It has not said
anything either, and a clone is announced before it is begun. -/
theorem execute_refused (host : Host) {step : Step} {context : StepContext} {machine : Machine}
    {failure : Failure} (raised : (execute host step context machine).value = .error failure)
    (refused : failure.isRefusal = true) :
    let result := execute host step context machine
    result.state = machine ∧
      (∀ url branch destination, Git.cloneNote url branch destination ∉ result.notes) ∧
      result.notes = [] := by
  have idle : RefusedIdle (execute host step context) :=
    .behindIdle (.ofExcept fun _ _ => trivial) fun resolved => perform_refused host context resolved
  intro result
  have whole : result = ⟨.error failure, machine, []⟩ := idle machine failure raised refused
  rw [whole]
  exact ⟨rfl, fun _ _ _ => List.not_mem_nil, rfl⟩

/-- The file of variables holds a list. -/
def listedStore : Store :=
  ⟨[(["work"], .directory 0o755),
    (["work", "vars.json"], .file ⟨#[0x5b, 0x31, 0x5d]⟩ 0o644)], ["work"]⟩

/-- A step for the file, all of whose references are known. -/
def plainPorts : Step :=
  .ofAction (.tfvars "vars.json" [("ports", .array [.string "8080"])])

theorem listedStore_kept :
    let machine : Machine := ⟨listedStore, []⟩
    let known := execute bareHost plainPorts bareContext machine
    let unknown := execute bareHost openPorts bareContext machine
    known.value = .error (.validation "/work/vars.json does not hold a JSON object") ∧
      known.state = machine ∧ unknown.value = .error (.undefinedVariable "PORT") ∧
      unknown.state = machine := by
  intro machine known unknown
  have noObject : known.value =
      .error (.validation "/work/vars.json does not hold a JSON object") := rfl
  have noPort : unknown.value = .error (.undefinedVariable "PORT") := rfl
  exact ⟨noObject, (execute_refused bareHost noObject rfl).1, noPort,
    (execute_refused bareHost noPort rfl).1⟩

end LiveRun

end Groundwork
