import Groundwork.Proofs.Graph.Expansion

namespace Groundwork.TaskGraph

/-! Plans are the first occurrences of the naive expansions of their targets. -/

open Groundwork.Graph Traversal

variable {graph : TaskGraph}

theorem visitTargets_follows {targets : List String} {trail : List Task} {traversal : Traversal}
    (follows : Follows graph [] trail traversal)
    (declared : ∀ target ∈ targets, target ∈ graph.tasks.map Task.name) :
    ∃ after, graph.visitTargets traversal targets = .ok after ∧
      Follows graph [] (trail ++ targets.flatMap graph.expansion) after := by
  induction targets generalizing trail traversal with
  | nil => exact ⟨traversal, rfl, by simpa using follows⟩
  | cons target rest ih =>
      have present := declared target List.mem_cons_self
      have next := follows.visit ⟨.nil, by simp, by simp⟩ present (Nat.le_refl graph.tasks.length)
      obtain ⟨after, visited, reached⟩ := ih next
        fun other member => declared other (List.mem_cons_of_mem _ member)
      refine ⟨after, ?_, ?_⟩
      · rw [visitTargets, if_pos (graph.contains_iff.mpr present)]
        exact visited
      · rw [List.flatMap_cons, ← List.append_assoc]
        exact reached

theorem visitTargets_unknown {before : List String} {target : String} {after : List String}
    {traversal : Traversal} (declared : ∀ earlier ∈ before, earlier ∈ graph.tasks.map Task.name)
    (missing : target ∉ graph.tasks.map Task.name) :
    graph.visitTargets traversal (before ++ target :: after) = .error (.unknownTask target) := by
  induction before generalizing traversal with
  | nil =>
      rw [List.nil_append, visitTargets, if_neg]
      exact fun present => missing (graph.contains_iff.mp present)
  | cons earlier rest ih =>
      rw [List.cons_append, visitTargets,
        if_pos (graph.contains_iff.mpr (declared earlier List.mem_cons_self))]
      exact ih fun other member => declared other (List.mem_cons_of_mem _ member)

theorem visitTargets_declared {targets : List String} {traversal after : Traversal}
    (visited : graph.visitTargets traversal targets = .ok after) :
    ∀ target ∈ targets, target ∈ graph.tasks.map Task.name := by
  induction targets generalizing traversal with
  | nil => simp
  | cons target rest ih =>
      rw [visitTargets] at visited
      split at visited
      · next present =>
          intro other member
          rcases List.mem_cons.mp member with rfl | later
          · exact graph.contains_iff.mp present
          · exact ih visited other later
      · contradiction

theorem resolve_unknown {before : List String} {target : String} {after : List String}
    (declared : ∀ earlier ∈ before, earlier ∈ graph.tasks.map Task.name)
    (missing : target ∉ graph.tasks.map Task.name) :
    graph.resolve (before ++ target :: after) = .error (.unknownTask target) := by
  rw [resolve, visitTargets_unknown declared missing]

theorem exists_first_undeclared {targets : List String}
    (undeclared : ¬ ∀ target ∈ targets, target ∈ graph.tasks.map Task.name) :
    ∃ before target after, targets = before ++ target :: after ∧
      (∀ earlier ∈ before, earlier ∈ graph.tasks.map Task.name) ∧
      target ∉ graph.tasks.map Task.name := by
  have missing : (targets.find? (· ∉ graph.tasks.map Task.name)).isSome := by
    simpa [List.find?_isSome] using undeclared
  obtain ⟨target, found⟩ := Option.isSome_iff_exists.mp missing
  obtain ⟨absent, before, after, split, declared⟩ := List.find?_eq_some_iff_append.mp found
  exact ⟨before, target, after, split, fun earlier member => by simpa using declared earlier member,
    by simpa using absent⟩

theorem resolve_undeclared {targets : List String}
    (undeclared : ¬ ∀ target ∈ targets, target ∈ graph.tasks.map Task.name) :
    ∃ target ∈ targets, target ∉ graph.tasks.map Task.name ∧
      graph.resolve targets = .error (.unknownTask target) := by
  obtain ⟨before, target, after, rfl, declared, missing⟩ := exists_first_undeclared undeclared
  exact ⟨target, List.mem_append_right _ List.mem_cons_self, missing,
    resolve_unknown declared missing⟩

theorem resolve_declared {targets : List String}
    (declared : ∀ target ∈ targets, target ∈ graph.tasks.map Task.name) :
    graph.resolve targets = .ok (keepFirst (targets.flatMap graph.expansion)) ∧
      NeedsFirst (keepFirst (targets.flatMap graph.expansion)) := by
  obtain ⟨after, visited, follows⟩ := visitTargets_follows start_follows declared
  rw [List.nil_append] at follows
  rw [resolve, visited, ← follows.plan]
  exact ⟨rfl, follows.ordered⟩

theorem resolve_ok_iff {targets : List String} {plan : List Task} :
    graph.resolve targets = .ok plan ↔
      (∀ target ∈ targets, target ∈ graph.tasks.map Task.name) ∧
        plan = keepFirst (targets.flatMap graph.expansion) := by
  constructor
  · intro resolved
    have declared : ∀ target ∈ targets, target ∈ graph.tasks.map Task.name := by
      unfold resolve at resolved
      split at resolved
      · contradiction
      · next visited => exact visitTargets_declared visited
    rw [(resolve_declared declared).1] at resolved
    exact ⟨declared, (Except.ok.inj resolved).symm⟩
  · rintro ⟨declared, rfl⟩
    exact (resolve_declared declared).1

theorem mem_plan {targets : List String} {task : Task} :
    task ∈ keepFirst (targets.flatMap graph.expansion) ↔
      task ∈ graph.tasks ∧
        ∃ target ∈ targets, Relation.ReflTransGen (Needs graph.tasks) target task.name := by
  rw [mem_keepFirst, List.mem_flatMap]
  constructor
  · rintro ⟨target, member, inside⟩
    obtain ⟨declared, reached⟩ := mem_expansion.mp inside
    exact ⟨declared, target, member, reached⟩
  · rintro ⟨declared, target, member, reached⟩
    exact ⟨target, member, mem_expansion.mpr ⟨declared, reached⟩⟩

theorem plan_names_nodup (targets : List String) :
    ((keepFirst (targets.flatMap graph.expansion)).map Task.name).Nodup := by
  refine (nodup_keepFirst _).map_on ?_
  intro task member other otherMember same
  exact task_eq_of_name_eq graph.names_nodup (mem_plan.mp member).1 (mem_plan.mp otherMember).1 same

theorem resolve_exists {targets : List String}
    (declared : ∀ target ∈ targets, graph.contains target = true) :
    ∃ plan, graph.resolve targets = .ok plan ∧ (plan.map Task.name).Nodup := by
  obtain ⟨resolved, _⟩ := resolve_declared fun target member =>
    graph.contains_iff.mp (declared target member)
  exact ⟨_, resolved, plan_names_nodup targets⟩

/-- The plan of declared targets is their naive expansion with later occurrences left out: no task
comes twice, all needs of a task come before it, and the tasks are those that are reached from the
targets.  Of undeclared targets the first is reported. -/
theorem resolve_keeps_first_occurrences {tasks : List Task} {graph : TaskGraph}
    (accepted : ofTasks tasks = .ok graph) (targets : List String) :
    (∀ name task, graph.get? name = some task →
      graph.expansion name = task.needs.flatMap graph.expansion ++ [task]) ∧
    ((∀ target ∈ targets, target ∈ tasks.map Task.name) →
      ∃ plan, graph.resolve targets = .ok plan ∧
        plan = keepFirst (targets.flatMap graph.expansion) ∧
        (plan.map Task.name).Nodup ∧
        NeedsFirst plan ∧
        ∀ task, task ∈ plan ↔
          task ∈ tasks ∧ ∃ target ∈ targets, Relation.ReflTransGen (Needs tasks) target task.name) ∧
    (∀ before target after, targets = before ++ target :: after →
      (∀ earlier ∈ before, earlier ∈ tasks.map Task.name) → target ∉ tasks.map Task.name →
      graph.resolve targets = .error (.unknownTask target)) := by
  have same := ofTasks_ok accepted
  subst same
  refine ⟨fun _ _ found => expansion_of_get? found, ?_, ?_⟩
  · intro declared
    obtain ⟨resolved, ordered⟩ := resolve_declared declared
    exact ⟨_, resolved, rfl, plan_names_nodup targets, ordered, fun _ => mem_plan⟩
  · rintro before target after rfl declared missing
    exact resolve_unknown declared missing

/-- Two tasks that need the same two in different orders. -/
def crossedNeeds : List Task :=
  [⟨"p", none, [], []⟩, ⟨"q", none, [], []⟩, ⟨"a", none, ["p", "q"], []⟩, ⟨"b", none, ["q", "p"], []⟩]

theorem resolve_crossed_needs :
    ∃ graph plan, ofTasks crossedNeeds = .ok graph ∧ graph.resolve ["a", "b", "a"] = .ok plan ∧
      plan.map Task.name = ["p", "q", "a", "b"] ∧
      plan = keepFirst (["a", "b", "a"].flatMap graph.expansion) ∧
      graph.resolve ["a", "c", "b"] = .error (.unknownTask "c") := by
  obtain ⟨graph, accepted⟩ : ∃ graph, ofTasks crossedNeeds = .ok graph := ⟨_, rfl⟩
  obtain ⟨plan, resolved, kept, _⟩ :=
    (resolve_keeps_first_occurrences accepted ["a", "b", "a"]).2.1 (by decide)
  have unknown := (resolve_keeps_first_occurrences accepted ["a", "c", "b"]).2.2
    ["a"] "c" ["b"] rfl (by decide) (by decide)
  have computed : ((ofTasks crossedNeeds).bind fun graph =>
      (graph.resolve ["a", "b", "a"]).map (List.map Task.name)) = .ok ["p", "q", "a", "b"] := rfl
  rw [accepted, Except.bind, resolved] at computed
  have names : plan.map Task.name = ["p", "q", "a", "b"] := Except.ok.inj computed
  exact ⟨graph, plan, accepted, resolved, names, kept, unknown⟩

end Groundwork.TaskGraph
