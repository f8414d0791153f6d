import Groundwork.Proofs.Run.Operations
import Groundwork.Proofs.Vars.Expansion
import Groundwork.Run.Live
import Groundwork.Run.Preflight

namespace Groundwork

/-! The programs that are looked for before a run, and those that its steps start.

What a step names is expanded twice, once before the run and once when the step is resolved.  Both agree
wherever the step can be resolved; a name that cannot be expanded is looked for as it stands.
-/

namespace Act

/-- Children are started for allowed programs only. -/
def Law.starting (allowed : String → Prop) : Law Machine where
  fails _ := True
  leads before after := ∃ commands, after.started = before.started ++ commands ∧
    ∀ command ∈ commands, allowed command.program
  voices _ := True
  stays machine := ⟨[], (List.append_nil _).symm, List.forall_mem_nil _⟩
  follows earlier later := by
    obtain ⟨commands, started, within⟩ := earlier
    obtain ⟨others, startedLater, withinLater⟩ := later
    exact ⟨commands ++ others, by rw [startedLater, started, List.append_assoc],
      List.forall_mem_append.mpr ⟨within, withinLater⟩⟩

def StartsOnly {α : Type} (allowed : String → Prop) (act : Act Machine α) : Prop :=
  Obeys (.starting allowed) act

namespace StartsOnly

variable {α : Type} {allowed : String → Prop} {command : Command}

theorem onStore (act : Act Store α) : StartsOnly allowed act.onStore :=
  fun machine => ⟨fun _ _ => trivial, (Law.starting allowed).stays machine, fun _ _ => trivial⟩

theorem start (isAllowed : allowed command.program) (host : Host) (patience : Patience) :
    StartsOnly allowed (command.start host patience) := by
  intro machine
  unfold Command.start
  split
  · exact Obeys.throw trivial machine
  · exact ⟨nofun, ⟨[command], rfl, List.forall_mem_singleton.mpr isAllowed⟩, List.forall_mem_nil _⟩

theorem run (isAllowed : allowed command.program) (host : Host) (limit : Option Duration) :
    StartsOnly allowed (command.run host limit) :=
  Command.run_obeys (start isAllowed host) (fun _ _ => trivial) (fun _ => trivial) limit

theorem capture (isAllowed : allowed command.program) (host : Host) :
    StartsOnly allowed (command.capture host) :=
  Command.capture_obeys (start isAllowed host _) (fun _ _ => trivial) fun _ _ => trivial

end StartsOnly

end Act

namespace LiveRun

/-- The programs that a child can be started for when a step is carried out. -/
inductive Starts (vars : Vars) (environment : Environment) : Action → String → Prop
  | shell (script : String) (directory : Option String) :
      Starts vars environment (.shell script directory) "sh"
  | exec {program expanded : String} (expands : vars.expand environment program = .ok expanded)
      (arguments : List String) (directory : Option String) :
      Starts vars environment (.exec program arguments directory) expanded
  | listing {word expanded : String} (expands : vars.expand environment word = .ok expanded)
      (name : String) (words : List String) (pattern : Option String) (create : String)
      (directory : Option String) :
      Starts vars environment (.ensureResource name (word :: words) pattern create directory) expanded
  | creation (name : String) (listing : List String) (pattern : Option String) (create : String)
      (directory : Option String) :
      Starts vars environment (.ensureResource name listing pattern create directory) "sh"

theorem ensureResource_starts {allowed : String → Prop} (host : Host) (context : StepContext)
    (name : String) {listing : List String} (pattern : Option String) (create : String)
    (directory : Option String) (lists : ∀ program ∈ listing.head?, allowed program)
    (creates : allowed "sh") :
    Act.StartsOnly allowed (ensureResource host context name listing pattern create directory) := by
  unfold ensureResource
  refine .behindExcept (fun _ _ => trivial) fun lister named =>
    .behindExcept (fun _ _ => trivial) fun extract _ => .bind ?_ fun made => ?_
  · have isAllowed : allowed lister.program := by
      cases listing with
      | nil => contradiction
      | cons program words =>
          cases named
          exact lists program rfl
    have captured : Act.Obeys (Act.Law.starting allowed).caught (listed host lister extract) :=
      .bind (Act.StartsOnly.capture isAllowed host) fun _ => .bind (.log trivial) fun _ => .pure _
    exact Guard.ensure_obeys captured (Act.StartsOnly.run creates host _) (fun _ _ => trivial) name
  · split
    · exact .pure _
    · exact .pure _

theorem perform_starts {allowed : String → Prop} (host : Host) (context : StepContext)
    {action : Action} (needed : ∀ program ∈ action.requiredPrograms, allowed program) :
    Act.StartsOnly allowed (perform host context action) := by
  cases action with
  | shell script directory =>
      exact .bind (Act.StartsOnly.run (needed _ List.mem_cons_self) host _) fun _ => .pure _
  | exec program arguments directory =>
      exact .bind (Act.StartsOnly.run (needed _ List.mem_cons_self) host _) fun _ => .pure _
  | ensureResource name listing pattern create directory =>
      exact ensureResource_starts host context name pattern create directory
        (fun program first => needed _ (List.mem_cons_of_mem _ (Option.mem_toList.mpr first)))
        (needed _ List.mem_cons_self)
  | copyIfAbsent | cloneIfAbsent | tfvars | remove => exact .onStore _

theorem starts_of_resolve {context : StepContext} {action resolved : Action} {program : String}
    (resolves : action.resolve context = .ok resolved) (needed : program ∈ resolved.requiredPrograms) :
    Starts context.vars context.environment action program := by
  cases action with
  | shell script directory =>
      obtain ⟨place, -, same⟩ := bind_eq_ok.mp resolves
      cases same
      rw [List.mem_singleton.mp needed]
      exact .shell script directory
  | exec word arguments directory =>
      obtain ⟨expanded, expands, later⟩ := bind_eq_ok.mp resolves
      obtain ⟨others, -, later⟩ := bind_eq_ok.mp later
      obtain ⟨place, -, same⟩ := bind_eq_ok.mp later
      cases same
      rw [List.mem_singleton.mp needed]
      exact .exec expands arguments directory
  | ensureResource name listing pattern create directory =>
      obtain ⟨expanded, -, later⟩ := bind_eq_ok.mp resolves
      obtain ⟨words, expands, later⟩ := bind_eq_ok.mp later
      obtain ⟨place, -, same⟩ := bind_eq_ok.mp later
      cases same
      rcases List.mem_cons.mp needed with rfl | first
      · exact .creation name listing pattern create directory
      · cases listing with
        | nil =>
            cases expands
            contradiction
        | cons word rest =>
            obtain ⟨found, expandsFirst, later⟩ := bind_eq_ok.mp expands
            obtain ⟨others, -, same⟩ := bind_eq_ok.mp later
            cases same
            rw [List.mem_singleton.mp first]
            exact .listing expandsFirst name rest pattern create directory
  | copyIfAbsent source destination =>
      obtain ⟨place, -, later⟩ := bind_eq_ok.mp resolves
      obtain ⟨target, -, same⟩ := bind_eq_ok.mp later
      cases same
      contradiction
  | cloneIfAbsent url branch destination =>
      obtain ⟨expanded, -, later⟩ := bind_eq_ok.mp resolves
      obtain ⟨other, -, later⟩ := bind_eq_ok.mp later
      obtain ⟨place, -, same⟩ := bind_eq_ok.mp later
      cases same
      contradiction
  | tfvars path values =>
      obtain ⟨place, -, same⟩ := bind_eq_ok.mp resolves
      cases same
      contradiction
  | remove path =>
      obtain ⟨place, -, same⟩ := bind_eq_ok.mp resolves
      cases same
      contradiction

/-- Carrying out a step starts children for its own programs only. -/
theorem execute_starts (host : Host) (step : Step) (context : StepContext) :
    Act.StartsOnly (Starts context.vars context.environment step.action)
      (execute host step context) :=
  .behindExcept (fun _ _ => trivial) fun _ resolves =>
    perform_starts host context fun _ => starts_of_resolve resolves

end LiveRun

namespace Preflight

/-- A text as it expands, or as it stands where it cannot be expanded. -/
def ExpandsOrStays (vars : Vars) (environment : Environment) (text name : String) : Prop :=
  vars.expand environment text = .ok name ∨
    (∃ failure, vars.expand environment text = .error failure) ∧ name = text

/-- The programs that a step names. -/
inductive Names (vars : Vars) (environment : Environment) : Action → String → Prop
  | shell (script : String) (directory : Option String) :
      Names vars environment (.shell script directory) "sh"
  | exec {program name : String} (stands : ExpandsOrStays vars environment program name)
      (arguments : List String) (directory : Option String) :
      Names vars environment (.exec program arguments directory) name
  | creation (resource : String) (listing : List String) (pattern : Option String) (create : String)
      (directory : Option String) :
      Names vars environment (.ensureResource resource listing pattern create directory) "sh"
  | listing {word name : String} (stands : ExpandsOrStays vars environment word name)
      (resource : String) (words : List String) (pattern : Option String) (create : String)
      (directory : Option String) :
      Names vars environment (.ensureResource resource (word :: words) pattern create directory) name

variable {vars : Vars} {environment : Environment}

theorem expandOrKeep_eq_iff {text name : String} :
    expandOrKeep vars environment text = name ↔ ExpandsOrStays vars environment text name := by
  unfold expandOrKeep ExpandsOrStays
  cases vars.expand environment text <;> simp [eq_comm]

theorem expandOrKeep_shell : expandOrKeep vars environment Action.shellProgram = "sh" :=
  expandOrKeep_eq_iff.mpr (.inl rfl)

/-- What a step names, in the order in which it does. -/
def namesOf (vars : Vars) (environment : Environment) (action : Action) : List String :=
  action.requiredPrograms.map (expandOrKeep vars environment)

theorem mem_namesOf {action : Action} {name : String} :
    name ∈ namesOf vars environment action ↔ Names vars environment action name := by
  constructor
  · intro member
    obtain ⟨text, named, stands⟩ := List.mem_map.mp member
    cases action with
    | shell script directory =>
        obtain rfl := List.mem_singleton.mp named
        obtain rfl : "sh" = name := expandOrKeep_shell.symm.trans stands
        exact .shell script directory
    | exec program arguments directory =>
        obtain rfl := List.mem_singleton.mp named
        exact .exec (expandOrKeep_eq_iff.mp stands) arguments directory
    | ensureResource resource listing pattern create directory =>
        rcases List.mem_cons.mp named with rfl | first
        · obtain rfl : "sh" = name := expandOrKeep_shell.symm.trans stands
          exact .creation resource listing pattern create directory
        · cases listing with
          | nil => contradiction
          | cons word words =>
              obtain rfl := List.mem_singleton.mp first
              exact .listing (expandOrKeep_eq_iff.mp stands) resource words pattern create directory
    | copyIfAbsent | cloneIfAbsent | tfvars | remove => contradiction
  · intro names
    cases names with
    | shell script directory => exact List.mem_map.mpr ⟨_, List.mem_cons_self, expandOrKeep_shell⟩
    | exec stands arguments directory =>
        exact List.mem_map.mpr ⟨_, List.mem_cons_self, expandOrKeep_eq_iff.mpr stands⟩
    | creation resource listing pattern create directory =>
        exact List.mem_map.mpr ⟨_, List.mem_cons_self, expandOrKeep_shell⟩
    | listing stands resource words pattern create directory =>
        exact List.mem_map.mpr
          ⟨_, List.mem_cons_of_mem _ List.mem_cons_self, expandOrKeep_eq_iff.mpr stands⟩

/-- What the steps of a plan name, one behind the other. -/
def uses (plan : List Task) (vars : Vars) (environment : Environment) : List String :=
  plan.flatMap fun task => task.steps.flatMap fun step => namesOf vars environment step.action

theorem requiredPrograms_eq (plan : List Task) :
    requiredPrograms plan vars environment = keepFirst (uses plan vars environment) := by
  simp only [requiredPrograms, uses, namesOf, List.map_flatMap]

theorem mem_requiredPrograms {plan : List Task} {name : String} :
    name ∈ requiredPrograms plan vars environment ↔
      ∃ task ∈ plan, ∃ step ∈ task.steps, Names vars environment step.action name := by
  simp only [requiredPrograms_eq, mem_keepFirst, uses, List.mem_flatMap, mem_namesOf]

theorem requiredPrograms_append (plan later : List Task) :
    requiredPrograms (plan ++ later) vars environment =
      requiredPrograms plan vars environment ++
        (requiredPrograms later vars environment).filter
          (· ∉ requiredPrograms plan vars environment) := by
  simp only [requiredPrograms_eq, uses, List.flatMap_append, keepFirst_append_filter]

theorem requiredPrograms_of_first_use {plan : List Task} {before after : List String}
    {program : String} (split : uses plan vars environment = before ++ program :: after)
    (first : program ∉ before) :
    ∃ earlier later, requiredPrograms plan vars environment = earlier ++ program :: later ∧
      ∀ name, name ∈ earlier ↔ name ∈ before := by
  refine ⟨keepFirst before, ((keepFirst after).filter (· ≠ program)).filter (· ∉ before), ?_,
    fun _ => mem_keepFirst⟩
  rw [requiredPrograms_eq, split, keepFirst_append, keepFirst, List.filter_cons,
    if_pos (decide_eq_true first)]

theorem names_of_starts {action : Action} {program : String}
    (starts : LiveRun.Starts vars environment action program) :
    Names vars environment action program := by
  cases starts with
  | shell script directory => exact .shell script directory
  | exec expands arguments directory => exact .exec (.inl expands) arguments directory
  | listing expands name words pattern create directory =>
      exact .listing (.inl expands) name words pattern create directory
  | creation name listing pattern create directory =>
      exact .creation name listing pattern create directory

/-- The programs that are looked for are those that the steps of the plan name, each once and in the
order of their first use.  They cover every child that is started for a step, whatever the base directory
and the machine, and a longer plan adds what is new in it. -/
theorem requiredPrograms_cover_starts (plan : List Task) (vars : Vars) (environment : Environment) :
    (requiredPrograms plan vars environment).Nodup ∧
    (∀ before program after, uses plan vars environment = before ++ program :: after →
      program ∉ before →
        ∃ earlier later, requiredPrograms plan vars environment = earlier ++ program :: later ∧
          ∀ name, name ∈ earlier ↔ name ∈ before) ∧
    (∀ task ∈ plan, ∀ step ∈ task.steps,
      (∀ program, LiveRun.Starts vars environment step.action program →
        program ∈ requiredPrograms plan vars environment) ∧
      ∀ (host : Host) (context : StepContext) (machine : Machine),
        context.vars = vars → context.environment = environment →
        ∃ commands, (LiveRun.execute host step context machine).state.started =
            machine.started ++ commands ∧
          ∀ command ∈ commands, LiveRun.Starts vars environment step.action command.program) ∧
    (∀ name ∈ requiredPrograms plan vars environment,
      ∃ task ∈ plan, ∃ step ∈ task.steps, Names vars environment step.action name) ∧
    ∀ later, requiredPrograms (plan ++ later) vars environment =
      requiredPrograms plan vars environment ++
        (requiredPrograms later vars environment).filter
          (· ∉ requiredPrograms plan vars environment) := by
  refine ⟨nodup_keepFirst _, fun before program after => requiredPrograms_of_first_use,
    fun task taskMember step stepMember => ⟨fun program starts => ?_, ?_⟩,
    fun name => mem_requiredPrograms.mp, requiredPrograms_append plan⟩
  · exact mem_requiredPrograms.mpr ⟨task, taskMember, step, stepMember, names_of_starts starts⟩
  · rintro host context machine rfl rfl
    exact (LiveRun.execute_starts host step context machine).leads

/-- Lists the networks and creates the missing one. -/
def networkStep : Step :=
  .ofAction (.ensureResource "lab" ["$\x7bVIRSH\x7d", "net-list"] none "virsh net-define lab.xml" none)

/-- Two of the texts are equal once they are expanded, and one cannot be. -/
def networkPlan : List Task :=
  [⟨"network", none, [], [networkStep, .ofAction (.shell "true" none)]⟩,
    ⟨"image", none, ["network"],
      [.ofAction (.exec "make" [] none), .ofAction (.exec "$\x7bBUILD\x7d" ["image"] none),
        .ofAction (.exec "$\x7bUNSET\x7d" [] none)]⟩]

def networkVars : Vars := .ofList [("BUILD", "make"), ("VIRSH", "virsh")]

def networkContext : StepContext := ⟨"network", 1, networkVars, .empty, "/", none, none⟩

/-- A host whose programs print nothing and fail. -/
def failingHost : Host :=
  { bareHost with programs := fun _ _ store => .ok ⟨.ended (.exited 1), store, .empty, .empty⟩ }

theorem networkPlan_programs :
    requiredPrograms networkPlan networkVars .empty = ["sh", "virsh", "make", "$\x7bUNSET\x7d"] ∧
    (∃ earlier later, requiredPrograms networkPlan networkVars .empty = earlier ++ "make" :: later ∧
      ∀ name, name ∈ earlier ↔ name ∈ ["sh", "virsh", "sh"]) ∧
    "virsh" ∈ requiredPrograms networkPlan networkVars .empty ∧
    ∃ commands, (LiveRun.execute failingHost networkStep networkContext ⟨.empty, []⟩).state.started =
        commands ∧
      commands.map Command.program = ["virsh", "sh"] ∧
      ∀ command ∈ commands,
        LiveRun.Starts networkVars .empty networkStep.action command.program := by
  obtain ⟨-, ordered, covers, -, -⟩ := requiredPrograms_cover_starts networkPlan networkVars .empty
  obtain ⟨listed, started⟩ := covers _ List.mem_cons_self networkStep List.mem_cons_self
  have listing : LiveRun.Starts networkVars .empty networkStep.action "virsh" :=
    .listing rfl _ _ _ _ _
  obtain ⟨commands, all, within⟩ := started failingHost networkContext ⟨.empty, []⟩ rfl rfl
  refine ⟨rfl, ordered ["sh", "virsh", "sh"] "make" _ rfl (by decide), listed _ listing, commands, all,
    ?_, within⟩
  rw [List.nil_append] at all
  rw [← all]
  rfl

end Preflight

end Groundwork
