import Groundwork.Proofs.Graph.Acceptance
import Groundwork.Proofs.Graph.Plan
import Mathlib.Data.List.Perm.Basic

namespace Groundwork

/-! What the place of a declaration in the list does not matter for.

Plans and verdicts are said in terms of names and needs, which do not mention the order of the
declarations.  A plan moreover looks only at what its targets reach.
-/

namespace TaskGraph

open Groundwork.Graph

variable {graph other : TaskGraph}

/-- The two lists declare the same tasks under all names that the targets reach through the needs of
the first. -/
def AgreeOn (tasks others : List Task) (targets : List String) : Prop :=
  ∀ task : Task,
    (∃ target ∈ targets, Relation.ReflTransGen (Needs tasks) target task.name) →
      (task ∈ tasks ↔ task ∈ others)

theorem AgreeOn.single {tasks others : List Task} {targets : List String}
    (agree : AgreeOn tasks others targets) {target : String} (member : target ∈ targets) :
    AgreeOn tasks others [target] := by
  rintro task ⟨root, asked, reached⟩
  exact agree task ⟨target, member, List.mem_singleton.mp asked ▸ reached⟩

theorem AgreeOn.need {tasks others : List Task} {name need : String}
    (agree : AgreeOn tasks others [name]) (needed : Needs tasks name need) :
    AgreeOn tasks others [need] := by
  rintro task ⟨root, asked, reached⟩
  have step : Needs tasks name root := (List.mem_singleton.mp asked).symm ▸ needed
  exact agree task ⟨name, List.mem_singleton_self name, reached.head step⟩

/-- Lists agree on what targets reach when they do on some names that hold the targets and the needs of
all tasks under them. -/
theorem agreeOn_of_closed {tasks others : List Task} {targets : List String} (names : List String)
    (asked : ∀ target ∈ targets, target ∈ names)
    (closed : ∀ task ∈ tasks, task.name ∈ names → ∀ need ∈ task.needs, need ∈ names)
    (kept : ∀ task ∈ tasks, task.name ∈ names → task ∈ others)
    (known : ∀ task ∈ others, task.name ∈ names → task ∈ tasks) : AgreeOn tasks others targets := by
  rintro task ⟨target, member, reached⟩
  have inside (name : String) (reached : Relation.ReflTransGen (Needs tasks) target name) :
      name ∈ names := by
    induction reached with
    | refl => exact asked target member
    | tail _ step ih =>
        obtain ⟨between, declared, rfl, needed⟩ := step
        exact closed between declared ih _ needed
  have own := inside task.name reached
  exact ⟨fun declared => kept task declared own, fun declared => known task declared own⟩

theorem get?_eq_of_agree {name : String} (agree : AgreeOn graph.tasks other.tasks [name]) :
    graph.get? name = other.get? name := by
  apply Option.ext
  intro task
  rw [get?_eq_some_iff, get?_eq_some_iff]
  refine and_congr_left fun named => agree task ⟨name, List.mem_singleton_self name, ?_⟩
  rw [named]

theorem expansion_eq_of_agree {name : String} (agree : AgreeOn graph.tasks other.tasks [name]) :
    graph.expansion name = other.expansion name := by
  induction name using graph.needs_wellFounded.induction with
  | _ name ih =>
      have same := get?_eq_of_agree agree
      cases found : graph.get? name with
      | none =>
          rw [expansion_undeclared found, expansion_undeclared (same.symm.trans found)]
      | some task =>
          rw [expansion_of_get? found, expansion_of_get? (same.symm.trans found)]
          refine congrArg (· ++ [task]) (List.flatMap_congr fun need needed => ?_)
          have step := graph.needs_of_get? found needed
          exact ih need step (agree.need step)

theorem declared_iff_of_agree {targets : List String}
    (agree : AgreeOn graph.tasks other.tasks targets) {target : String} (member : target ∈ targets) :
    target ∈ graph.tasks.map Task.name ↔ target ∈ other.tasks.map Task.name := by
  rw [← contains_iff, ← contains_iff, contains, contains, get?_eq_of_agree (agree.single member)]

theorem resolve_eq_of_agree {targets : List String}
    (agree : AgreeOn graph.tasks other.tasks targets) :
    graph.resolve targets = other.resolve targets := by
  by_cases declared : ∀ target ∈ targets, target ∈ graph.tasks.map Task.name
  · have otherDeclared : ∀ target ∈ targets, target ∈ other.tasks.map Task.name :=
      fun target member => (declared_iff_of_agree agree member).mp (declared target member)
    have expansions : targets.flatMap graph.expansion = targets.flatMap other.expansion :=
      List.flatMap_congr fun target member => expansion_eq_of_agree (agree.single member)
    rw [(resolve_declared declared).1, (resolve_declared otherDeclared).1, expansions]
  · obtain ⟨before, target, after, rfl, earlier, missing⟩ := exists_first_undeclared declared
    have otherEarlier : ∀ name ∈ before, name ∈ other.tasks.map Task.name := fun name member =>
      (declared_iff_of_agree agree (List.mem_append_left _ member)).mp (earlier name member)
    have otherMissing : target ∉ other.tasks.map Task.name := fun present => missing
      ((declared_iff_of_agree agree (List.mem_append_right _ List.mem_cons_self)).mpr present)
    rw [resolve_unknown earlier missing, resolve_unknown otherEarlier otherMissing]

/-- Both are accepted, or both are refused for a fault of the same kind. -/
def SameVerdict : Except Failure TaskGraph → Except Failure TaskGraph → Prop
  | .ok _, .ok _ => True
  | .error (.duplicateTask _), .error (.duplicateTask _) => True
  | .error (.unknownPrerequisite _ _), .error (.unknownPrerequisite _ _) => True
  | .error (.cycle _), .error (.cycle _) => True
  | _, _ => False

section

variable {tasks others : List Task}

theorem needs_perm (permuted : tasks.Perm others) : Needs tasks = Needs others := by
  funext name need
  simp only [Needs, permuted.mem_iff]

theorem allDeclared_perm (permuted : tasks.Perm others) :
    AllDeclared tasks ↔ AllDeclared others := by
  simp only [AllDeclared, permuted.mem_iff, (permuted.map Task.name).mem_iff]

theorem hasCycle_perm (permuted : tasks.Perm others) : HasCycle tasks ↔ HasCycle others := by
  simp only [HasCycle, permuted.mem_iff, needs_perm permuted]

theorem firstRepeated?_perm (permuted : tasks.Perm others) :
    firstRepeated? [] (tasks.map Task.name) = none ↔
      firstRepeated? [] (others.map Task.name) = none := by
  rw [firstRepeated?_names_eq_none, firstRepeated?_names_eq_none,
    (permuted.map Task.name).nodup_iff]

theorem firstUndeclared?_perm (permuted : tasks.Perm others) :
    firstUndeclared? tasks = none ↔ firstUndeclared? others = none := by
  rw [firstUndeclared?_eq_none, firstUndeclared?_eq_none]
  exact allDeclared_perm permuted

theorem isOrderable_perm (permuted : tasks.Perm others)
    (distinct : firstRepeated? [] (tasks.map Task.name) = none)
    (declared : firstUndeclared? tasks = none) : isOrderable tasks = isOrderable others := by
  have otherDistinct := (firstRepeated?_perm permuted).mp distinct
  have otherDeclared := (firstUndeclared?_perm permuted).mp declared
  rw [Bool.eq_iff_iff,
    isOrderable_iff (firstRepeated?_names_eq_none.mp distinct) (firstUndeclared?_eq_none.mp declared),
    isOrderable_iff (firstRepeated?_names_eq_none.mp otherDistinct)
      (firstUndeclared?_eq_none.mp otherDeclared), hasCycle_perm permuted]

theorem exists_some_of_iff {α : Type u} {first second : Option α}
    (same : first = none ↔ second = none) {value : α} (found : first = some value) :
    ∃ other, second = some other :=
  Option.ne_none_iff_exists'.mp fun missing => by simp [same.mpr missing] at found

/-- Each check finds something in one order of the declarations exactly when it does in the other. -/
theorem ofTasks_perm (permuted : tasks.Perm others) :
    SameVerdict (ofTasks tasks) (ofTasks others) := by
  cases repeated : firstRepeated? [] (tasks.map Task.name) with
  | some name =>
      obtain ⟨other, again⟩ := exists_some_of_iff (firstRepeated?_perm permuted) repeated
      rw [ofTasks_duplicate repeated, ofTasks_duplicate again]
      trivial
  | none =>
      have once := (firstRepeated?_perm permuted).mp repeated
      cases undeclared : firstUndeclared? tasks with
      | some fault =>
          obtain ⟨other, missing⟩ := exists_some_of_iff (firstUndeclared?_perm permuted) undeclared
          rw [ofTasks_undeclared repeated undeclared, ofTasks_undeclared once missing]
          trivial
      | none =>
          have declared := (firstUndeclared?_perm permuted).mp undeclared
          have same := isOrderable_perm permuted repeated undeclared
          cases orderable : isOrderable tasks with
          | false =>
              rw [ofTasks_cycle repeated undeclared orderable,
                ofTasks_cycle once declared (same.symm.trans orderable)]
              trivial
          | true =>
              rw [ofTasks_accepted repeated undeclared orderable,
                ofTasks_accepted once declared (same.symm.trans orderable)]
              trivial

end

/-- A plan depends on nothing but the declarations that its targets reach: two accepted lists that
agree on those give the same one, in the same order, whatever else they declare and wherever.  And no
order of the declarations changes whether they are accepted, or for what kind of fault they are
refused. -/
theorem resolve_depends_on_reached :
    (∀ (tasks others : List Task) (graph other : TaskGraph) (targets : List String),
      ofTasks tasks = .ok graph → ofTasks others = .ok other → AgreeOn tasks others targets →
      graph.resolve targets = other.resolve targets ∧
        ((∀ target ∈ targets, target ∈ tasks.map Task.name) →
          ∃ plan, graph.resolve targets = .ok plan ∧ other.resolve targets = .ok plan)) ∧
    ∀ tasks others : List Task, tasks.Perm others →
      SameVerdict (ofTasks tasks) (ofTasks others) := by
  refine ⟨?_, fun _ _ => ofTasks_perm⟩
  intro tasks others graph other targets accepted otherAccepted agree
  have same := ofTasks_ok accepted
  have otherSame := ofTasks_ok otherAccepted
  subst same otherSame
  have equal := resolve_eq_of_agree agree
  refine ⟨equal, fun declared => ?_⟩
  have resolved := (resolve_declared declared).1
  exact ⟨_, resolved, equal.symm.trans resolved⟩

/-- The tasks with crossed needs in another order, one of them changed and another one between. -/
def surroundedNeeds : List Task :=
  [⟨"b", none, ["q", "p"], []⟩, ⟨"z", none, ["b"], []⟩, ⟨"q", none, [], []⟩,
    ⟨"a", none, ["z"], []⟩, ⟨"p", none, [], []⟩]

theorem surroundedNeeds_plan :
    AgreeOn crossedNeeds surroundedNeeds ["b"] ∧
      (∃ graph other plan, ofTasks crossedNeeds = .ok graph ∧ ofTasks surroundedNeeds = .ok other ∧
        graph.resolve ["b"] = .ok plan ∧ other.resolve ["b"] = .ok plan ∧
        plan.map Task.name = ["q", "p", "b"]) ∧
      SameVerdict (ofTasks twoFaults) (ofTasks twoFaults.reverse) := by
  have agree : AgreeOn crossedNeeds surroundedNeeds ["b"] :=
    agreeOn_of_closed ["b", "q", "p"] (by decide) (by decide) (by decide) (by decide)
  obtain ⟨graph, accepted⟩ : ∃ graph, ofTasks crossedNeeds = .ok graph := ⟨_, rfl⟩
  obtain ⟨other, otherAccepted⟩ : ∃ other, ofTasks surroundedNeeds = .ok other := ⟨_, rfl⟩
  obtain ⟨_, planned⟩ :=
    resolve_depends_on_reached.1 _ _ graph other ["b"] accepted otherAccepted agree
  obtain ⟨plan, resolved, otherResolved⟩ := planned (by decide)
  have computed : ((ofTasks crossedNeeds).bind fun graph =>
      (graph.resolve ["b"]).map (List.map Task.name)) = .ok ["q", "p", "b"] := rfl
  rw [accepted, Except.bind, resolved] at computed
  exact ⟨agree, ⟨graph, other, plan, accepted, otherAccepted, resolved, otherResolved,
    Except.ok.inj computed⟩, resolve_depends_on_reached.2 _ _ (List.reverse_perm twoFaults).symm⟩

end TaskGraph

end Groundwork
