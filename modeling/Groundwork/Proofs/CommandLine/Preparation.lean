import Groundwork.CommandLine.Dispatch
import Groundwork.Proofs.Config.Variables
import Groundwork.Proofs.Graph.Plan

namespace Groundwork

/-! What is read and checked before the first step of a run.

All of it only looks: the machine stays as it is, and nothing goes to the output.  What is found wrong is
never an interrupt.
-/

def Note.printed? : Note → Option ByteArray
  | .printed bytes => some bytes
  | _ => none

namespace Act

universe u v

variable {σ : Type u} {α : Type v}

/-- The operation leaves the state as it is and prints nothing, and no interrupt ends it. -/
def Looks (act : Act σ α) : Prop :=
  Obeys (.keeping (fun failure => failure ≠ .interrupted) fun note => note.printed? = none) act

namespace Looks

variable {act : Act σ α}

theorem kept (looks : Looks act) (state : σ) : (act state).state = state :=
  (looks state).leads.symm

theorem silent (looks : Looks act) (state : σ) : ∀ note ∈ (act state).notes, note.printed? = none :=
  (looks state).voices

theorem uninterrupted (looks : Looks act) (state : σ) : (act state).value ≠ .error .interrupted :=
  fun interrupted => (looks state).fails _ interrupted rfl

theorem ofExcept {value : Except Failure α} (uninterrupted : value ≠ .error .interrupted) :
    Looks (Act.ofExcept value : Act σ α) :=
  Obeys.ofExcept fun _ same interrupted => uninterrupted (interrupted ▸ same)

theorem look {α : Type v} (operation : Store → Except IoCause α) : Looks (Act.look operation) :=
  Obeys.look operation fun _ => nofun

theorem onStore {α : Type v} {act : Act Store α} (looks : Looks act) : Looks act.onStore :=
  Obeys.onStore looks (fun _ => id) (fun _ _ same => same ▸ rfl) fun _ => id

end Looks

end Act

namespace Config

theorem path?_uninterrupted (home : Option String) : path? home ≠ .error .interrupted := by
  cases home with
  | none => exact fun same => by cases same
  | some home => exact fun same => by cases same

theorem parse_uninterrupted (text : String) : parse text ≠ .error .interrupted := by
  unfold parse
  split
  · simp
  · split <;> simp

theorem applyOverrides_uninterrupted (environment : Environment) (config : Config) :
    (config.applyOverrides environment).2 ≠ some .interrupted := by
  cases result : config.applyOverrides environment with | mk after ending => ?_
  rintro rfl
  obtain ⟨_, _, ⟨_, _, _, _, _, _, _, cause⟩, _⟩ := applyOverrides_refused result
  contradiction

theorem load_looks (path : String) : Act.Looks (load path) := by
  unfold load
  refine .bind (.log rfl) fun _ => .bind (.read _) fun isPresent => ?_
  split
  · exact .bind (.log rfl) fun _ => .pure _
  · exact .bind (Act.Looks.look _) fun text => .bind (Act.Looks.ofExcept (parse_uninterrupted text))
      fun config => .bind (.note rfl) fun _ => .pure _

theorem loadEffective_looks (home : Option String) (environment : Environment) :
    Act.Looks (loadEffective home environment) := by
  unfold loadEffective
  refine .bind (Act.Looks.ofExcept (path?_uninterrupted home)) fun path =>
    .bind (load_looks path) fun config => ?_
  have uninterrupted := applyOverrides_uninterrupted environment config
  split
  · exact .pure _
  · next overridden =>
      rw [overridden] at uninterrupted
      exact .throw fun same => uninterrupted (congrArg some same)

theorem toVars_uninterrupted (config : Config) (home : Option String) (base : String) :
    config.toVars home base ≠ .error .interrupted := by
  unfold toVars effectiveMasterCount
  split <;> simp [bind, Except.bind, pure, Except.pure]

end Config

namespace Taskfile

theorem parse_uninterrupted (text : String) (source : Source) (directory : String) :
    parse text source directory ≠ .error .interrupted := by
  unfold parse
  split
  · simp
  · split <;> simp

theorem load_looks (path : String) : Act.Looks (load path) := by
  have parsed (text directory : String) :
      Act.Looks (Act.ofExcept (parse text (.file path) directory) >>= noted) :=
    .bind (Act.Looks.ofExcept (parse_uninterrupted text (.file path) directory)) fun _ =>
      .bind (.note rfl) fun _ => .pure _
  unfold load
  refine .bind (Act.Looks.look _) fun text => ?_
  dsimp only
  split
  · exact .bind (.pure _) fun directory => parsed text directory
  · exact .bind (Act.Looks.look _) fun directory => parsed text directory

theorem locate_looks (asked : Option String) (config : Config) (home : Option String)
    (directory : String) : Act.Looks (locate asked config home directory) := by
  unfold locate
  split
  · exact load_looks _
  · exact load_looks _
  · refine .bind (.read _) fun isThere => ?_
    split
    · exact load_looks _
    · exact .bind (.log rfl) fun _ => .bind (.note rfl) fun _ => .pure _

theorem graph_uninterrupted (taskfile : Taskfile) : taskfile.graph ≠ .error .interrupted := by
  unfold graph TaskGraph.ofTasks
  split
  · simp
  · split
    · simp
    · split <;> simp

end Taskfile

theorem Vars.addDefaults_uninterrupted (given environment : Environment) (defaults : Table String)
    (vars : Vars) : (addDefaults given environment defaults vars).2 ≠ some .interrupted := by
  induction defaults generalizing vars with
  | nil => simp [addDefaults]
  | cons entry rest ih =>
      unfold addDefaults
      split
      · exact ih vars
      · split
        · exact ih _
        · split
          · exact ih _
          · next refused =>
              have undefined := failure?_expand vars environment entry.2
              rw [refused] at undefined
              intro same
              obtain rfl := Option.some.inj same
              cases found : vars.undefined? environment entry.2 <;> simp [found, failure?] at undefined

namespace CommandLine

variable {host : Host} {asked : Option String} {targets : List String} {store : Store}
  {setting : Setting}

/-- The configuration, with its overrides, and the taskfile are read. -/
structure IsRead (host : Host) (asked : Option String) (store : Store) (setting : Setting) : Prop where
  config : (Config.loadEffective host.home (environmentOf host) store).value = .ok setting.config
  taskfile : ∃ directory, store.workDirectory = .ok directory ∧
    (Taskfile.locate asked setting.config host.home directory store).value = .ok setting.taskfile

/-- Everything that a run depends on is in order. -/
structure Accepted (host : Host) (asked : Option String) (targets : List String) (store : Store)
    (setting : Setting) (graph : TaskGraph) (vars : Vars) : Prop where
  read : IsRead host asked store setting
  graph : setting.taskfile.graph = .ok graph
  vars : variablesOf host setting = .ok vars
  declared : ∀ target ∈ targets, target ∈ setting.taskfile.tasks.map Task.name

/-- What can be wrong with a run before its first step. -/
inductive Rejected (host : Host) (asked : Option String) (targets : List String) (store : Store) :
    Prop where
  | config {failure : Failure}
      (refused : (Config.loadEffective host.home (environmentOf host) store).value = .error failure)
  | taskfile {config : Config} {directory : String} {failure : Failure}
      (loaded : (Config.loadEffective host.home (environmentOf host) store).value = .ok config)
      (working : store.workDirectory = .ok directory)
      (refused : (Taskfile.locate asked config host.home directory store).value = .error failure)
  | graph {setting : Setting} {failure : Failure} (read : IsRead host asked store setting)
      (refused : setting.taskfile.graph = .error failure)
  | fields {setting : Setting} {failure : Failure} (read : IsRead host asked store setting)
      (refused : setting.config.toVars host.home setting.taskfile.baseDirectory = .error failure)
  | default {setting : Setting} {vars reached : Vars} {failure : Failure}
      (read : IsRead host asked store setting)
      (known : setting.config.toVars host.home setting.taskfile.baseDirectory = .ok vars)
      (refused : Vars.addDefaults (environmentOf host).nonempty (environmentOf host)
        setting.taskfile.vars.entries vars = (reached, some failure))
  | target {setting : Setting} {target : String} (read : IsRead host asked store setting)
      (named : target ∈ targets) (undeclared : target ∉ setting.taskfile.tasks.map Task.name)

/-- What the system can deny a run: a directory to work in, and, unless it is dry, the means to wait for
children. -/
inductive Hindered (host : Host) (options : RunOptions) (store : Store) : Prop where
  | directory {cause : IoCause} (lost : store.workDirectory = .error cause)
  | runtime {cause : IoCause} (live : options.dryRun = false) (denied : host.runtime = .error cause)

theorem IsRead.not_hindered {options : RunOptions} (read : IsRead host asked store setting)
    (started : options.dryRun = false → host.runtime = .ok ()) : ¬ Hindered host options store := by
  intro hindered
  cases hindered with
  | directory lost =>
      obtain ⟨directory, working, -⟩ := read.taskfile
      cases lost.symm.trans working
  | runtime live denied => cases denied.symm.trans (started live)

theorem IsRead.unique {other : Setting} (read : IsRead host asked store setting)
    (again : IsRead host asked store other) : other = setting := by
  obtain ⟨config, taskfile⟩ := setting
  obtain ⟨otherConfig, otherTaskfile⟩ := other
  obtain rfl : otherConfig = config := Except.ok.inj (again.config.symm.trans read.config)
  obtain ⟨directory, working, located⟩ := read.taskfile
  obtain ⟨_, same, locatedAgain⟩ := again.taskfile
  obtain rfl := Except.ok.inj (same.symm.trans working)
  obtain rfl : otherTaskfile = taskfile := Except.ok.inj (locatedAgain.symm.trans located)
  rfl

theorem variablesOf_ok_iff {vars : Vars} :
    variablesOf host setting = .ok vars ↔ ∃ known,
      setting.config.toVars host.home setting.taskfile.baseDirectory = .ok known ∧
      Vars.addDefaults (environmentOf host).nonempty (environmentOf host) setting.taskfile.vars.entries
        known = (vars, none) := by
  refine ⟨variablesOf_ok, ?_⟩
  rintro ⟨known, found, added⟩
  simp [variablesOf, found, added, bind, Except.bind, pure, Except.pure]

theorem variablesOf_uninterrupted (host : Host) (setting : Setting) :
    variablesOf host setting ≠ .error .interrupted := by
  intro interrupted
  cases known : setting.config.toVars host.home setting.taskfile.baseDirectory with
  | error failure =>
      have refused := setting.config.toVars_uninterrupted host.home setting.taskfile.baseDirectory
      simp only [variablesOf, known, bind, Except.bind, Except.error.injEq] at interrupted
      exact refused (interrupted ▸ known)
  | ok vars =>
      have refused := Vars.addDefaults_uninterrupted (environmentOf host).nonempty
        (environmentOf host) setting.taskfile.vars.entries vars
      simp only [variablesOf, known, bind, Except.bind] at interrupted
      split at interrupted
      · cases interrupted
      · next added =>
          cases interrupted
          rw [added] at refused
          exact refused rfl

theorem Accepted.not_rejected {graph : TaskGraph} {vars : Vars}
    (accepted : Accepted host asked targets store setting graph vars) :
    ¬ Rejected host asked targets store := by
  have read := accepted.read
  intro rejected
  cases rejected with
  | config refused => cases refused.symm.trans read.config
  | taskfile loaded working refused =>
      obtain ⟨directory, same, located⟩ := read.taskfile
      obtain rfl := Except.ok.inj (loaded.symm.trans read.config)
      obtain rfl := Except.ok.inj (working.symm.trans same)
      cases refused.symm.trans located
  | graph again refused =>
      obtain rfl := read.unique again
      cases refused.symm.trans accepted.graph
  | fields again refused =>
      obtain rfl := read.unique again
      obtain ⟨known, found, _⟩ := variablesOf_ok_iff.mp accepted.vars
      cases refused.symm.trans found
  | default again known refused =>
      obtain rfl := read.unique again
      obtain ⟨found, same, added⟩ := variablesOf_ok_iff.mp accepted.vars
      obtain rfl := Except.ok.inj (known.symm.trans same)
      cases refused.symm.trans added
  | target again named undeclared =>
      obtain rfl := read.unique again
      exact undeclared (accepted.declared _ named)

theorem isRead_exists {directory : String} (working : store.workDirectory = .ok directory)
    (sound : ¬ Rejected host asked targets store) : ∃ setting, IsRead host asked store setting := by
  cases loaded : (Config.loadEffective host.home (environmentOf host) store).value with
  | error failure => exact absurd (.config loaded) sound
  | ok config =>
      cases located : (Taskfile.locate asked config host.home directory store).value with
      | error failure => exact absurd (.taskfile loaded working located) sound
      | ok taskfile => exact ⟨⟨config, taskfile⟩, loaded, directory, working, located⟩

theorem accepted_exists {directory : String} (working : store.workDirectory = .ok directory)
    (sound : ¬ Rejected host asked targets store) :
    ∃ setting graph vars, Accepted host asked targets store setting graph vars := by
  obtain ⟨setting, read⟩ := isRead_exists working sound
  have declared : ∀ target ∈ targets, target ∈ setting.taskfile.tasks.map Task.name := by
    intro target named
    by_contra undeclared
    exact sound (.target read named undeclared)
  cases built : setting.taskfile.graph with
  | error failure => exact absurd (.graph read built) sound
  | ok graph =>
      cases known : setting.config.toVars host.home setting.taskfile.baseDirectory with
      | error failure => exact absurd (.fields read known) sound
      | ok vars =>
          cases added : Vars.addDefaults (environmentOf host).nonempty (environmentOf host)
              setting.taskfile.vars.entries vars with
          | mk reached failure =>
              cases failure with
              | some failure => exact absurd (.default read known added) sound
              | none =>
                  exact ⟨setting, graph, reached, read, built,
                    variablesOf_ok_iff.mpr ⟨vars, known, added⟩, declared⟩

theorem prepare_looks (host : Host) (asked : Option String) : Act.Looks (prepare host asked) := by
  unfold prepare
  exact .bind (Config.loadEffective_looks _ _).onStore fun config =>
    .bind (Act.Looks.look _).onStore fun directory =>
      .bind (Taskfile.locate_looks _ _ _ _).onStore fun taskfile => .bind (.log rfl) fun _ => .pure _

theorem prepare_ok_iff {machine : Machine} :
    (prepare host asked machine).value = .ok setting ↔ IsRead host asked machine.store setting := by
  have keptLoading := (Config.loadEffective_looks host.home (environmentOf host)).onStore.kept machine
  have keptFinding := (Act.Looks.look Store.workDirectory).onStore.kept machine
  constructor
  · intro prepared
    obtain ⟨config, loaded, rest⟩ := Act.andThen_eq_ok.mp prepared
    rw [keptLoading] at rest
    obtain ⟨directory, working, rest⟩ := Act.andThen_eq_ok.mp rest
    rw [keptFinding] at rest
    obtain ⟨taskfile, located, rest⟩ := Act.andThen_eq_ok.mp rest
    cases rest
    exact ⟨loaded, directory, Act.look_eq_ok.mp working, located⟩
  · intro read
    obtain ⟨directory, working, located⟩ := read.taskfile
    refine Act.andThen_eq_ok.mpr ⟨setting.config, read.config, ?_⟩
    rw [keptLoading]
    refine Act.andThen_eq_ok.mpr ⟨directory, Act.look_eq_ok.mpr working, ?_⟩
    rw [keptFinding]
    exact Act.andThen_eq_ok.mpr ⟨setting.taskfile, located, rfl⟩

variable {σ : Type}

theorem masterCountNotes_silent (config : Config) :
    ∀ note ∈ config.masterCountNotes, note.printed? = none := by
  unfold Config.masterCountNotes
  split <;> simp [Note.printed?]

def Setting.sequencer (setting : Setting) (host : Host) (graph : TaskGraph) (vars : Vars)
    (executor : Executor σ) (timeout : Option Duration) : Sequencer σ :=
  ⟨graph, executor, vars, environmentOf host, setting.taskfile.baseDirectory, timeout⟩

theorem loadVariables_looks (host : Host) (setting : Setting) :
    Act.Looks (loadVariables host setting) := by
  intro machine
  refine ⟨fun failure refused interrupted => ?_, rfl, masterCountNotes_silent setting.config⟩
  exact variablesOf_uninterrupted host setting (interrupted ▸ refused)

theorem liveExecutor_ok_iff {executor : Executor Machine} :
    liveExecutor host = .ok executor ↔ host.runtime = .ok () ∧ executor = LiveRun.executor host := by
  unfold liveExecutor
  cases host.runtime <;> simp [eq_comm]

theorem liveExecutor_uninterrupted (host : Host) : liveExecutor host ≠ .error .interrupted := by
  unfold liveExecutor
  cases host.runtime <;> simp

variable {executor : Except Failure (Executor σ)}

theorem sequencerOf_looks (setting : Setting) (timeout : Option Duration)
    (uninterrupted : executor ≠ .error .interrupted) :
    Act.Looks (sequencerOf host setting executor timeout) := by
  unfold sequencerOf
  exact .bind (Act.Looks.ofExcept setting.taskfile.graph_uninterrupted) fun graph =>
    .bind (loadVariables_looks host setting) fun vars =>
      .bind (Act.Looks.ofExcept uninterrupted) fun executor => .pure _

theorem sequencerOf_ok_iff {timeout : Option Duration} {machine : Machine} {sequencer : Sequencer σ} :
    (sequencerOf host setting executor timeout machine).value = .ok sequencer ↔
      ∃ graph vars chosen, setting.taskfile.graph = .ok graph ∧ variablesOf host setting = .ok vars ∧
        executor = .ok chosen ∧ sequencer = setting.sequencer host graph vars chosen timeout := by
  constructor
  · intro made
    obtain ⟨graph, built, rest⟩ := Act.andThen_eq_ok.mp made
    obtain ⟨vars, final, rest⟩ := Act.andThen_eq_ok.mp rest
    obtain ⟨chosen, same, rest⟩ := Act.andThen_eq_ok.mp rest
    cases rest
    exact ⟨graph, vars, chosen, built, final, same, rfl⟩
  · rintro ⟨graph, vars, chosen, built, final, same, rfl⟩
    exact Act.andThen_eq_ok.mpr ⟨graph, built, Act.andThen_eq_ok.mpr ⟨vars, final,
      Act.andThen_eq_ok.mpr ⟨chosen, same, rfl⟩⟩⟩

end CommandLine

end Groundwork
