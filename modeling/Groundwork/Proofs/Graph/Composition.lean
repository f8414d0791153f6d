import Groundwork.Proofs.Graph.Plan
import Mathlib.Data.List.Induction

namespace Groundwork.TaskGraph

/-! Plans of targets one after another.

A plan is the first occurrences of the expansions of its targets, so that what more targets add stands
behind it.  A plan that lists every need before the task is its own plan: when a task comes up, all that
it needs has been planned.
-/

open Groundwork.Graph

variable {graph : TaskGraph}

theorem mem_plan_of_covered {targets more : List String}
    (covered : ∀ target ∈ more,
      target ∈ (keepFirst (targets.flatMap graph.expansion)).map Task.name) :
    ∀ task ∈ more.flatMap graph.expansion, task ∈ targets.flatMap graph.expansion := by
  intro task inside
  obtain ⟨target, listed, expanded⟩ := List.mem_flatMap.mp inside
  obtain ⟨member, reached⟩ := mem_expansion.mp expanded
  obtain ⟨other, planned, rfl⟩ := List.mem_map.mp (covered target listed)
  obtain ⟨_, first, asked, before⟩ := mem_plan.mp planned
  exact mem_keepFirst.mp (mem_plan.mpr ⟨member, first, asked, before.trans reached⟩)

theorem NeedsFirst.of_append {before after : List Task} (ordered : NeedsFirst (before ++ after)) :
    NeedsFirst before := by
  intro earlier task later split
  exact ordered earlier task (later ++ after) (by rw [split, List.append_assoc, List.cons_append])

/-- Tasks that all stand behind their needs are the plan of their names. -/
theorem plan_of_needsFirst {plan : List Task} (ordered : NeedsFirst plan) (distinct : plan.Nodup)
    (members : ∀ task ∈ plan, task ∈ graph.tasks) :
    keepFirst ((plan.map Task.name).flatMap graph.expansion) = plan := by
  induction plan using List.reverseRecOn with
  | nil => rfl
  | append_singleton before task ih =>
      obtain ⟨earlier, _, apart⟩ := List.nodup_append.mp distinct
      have done := ih ordered.of_append earlier fun other member =>
        members other (List.mem_append_left _ member)
      have member := members task (List.mem_append_right _ List.mem_cons_self)
      -- The expansions of the needs are among those of the tasks before.
      have covered : ∀ other ∈ task.needs.flatMap graph.expansion,
          other ∈ (before.map Task.name).flatMap graph.expansion := by
        intro other inside
        obtain ⟨need, needed, expanded⟩ := List.mem_flatMap.mp inside
        exact List.mem_flatMap.mpr ⟨need, ordered before task [] rfl need needed, expanded⟩
      have fresh : task ∉ (before.map Task.name).flatMap graph.expansion ++
          task.needs.flatMap graph.expansion := by
        intro inside
        have planned : task ∈ before := by
          rw [← done, mem_keepFirst]
          exact (List.mem_append.mp inside).elim id (covered task)
        exact apart task planned task List.mem_cons_self rfl
      rw [List.map_append, List.flatMap_append, List.map_singleton, List.flatMap_singleton,
        expansion_of_get? (graph.get?_of_mem member), ← List.append_assoc, keepFirst_concat fresh,
        keepFirst_append_of_subset covered, done]

/-- Plans compose: more targets add what they need and the first ones did not, behind the plan of the
first ones, and nothing where they are covered; a plan is the plan of its own names. -/
theorem resolve_append {tasks : List Task} {graph : TaskGraph}
    (accepted : ofTasks tasks = .ok graph) {targets more : List String}
    (declared : ∀ target ∈ targets ++ more, target ∈ tasks.map Task.name) :
    ∃ plan other whole, graph.resolve targets = .ok plan ∧ graph.resolve more = .ok other ∧
      graph.resolve (targets ++ more) = .ok whole ∧
      whole = plan ++ other.filter (· ∉ plan) ∧ plan <+: whole ∧
      ((∀ target ∈ more, target ∈ plan.map Task.name) → whole = plan) ∧
      graph.resolve (plan.map Task.name) = .ok plan := by
  have same := ofTasks_ok accepted
  subst same
  obtain ⟨targetsDeclared, moreDeclared⟩ := List.forall_mem_append.mp declared
  obtain ⟨first, ordered⟩ := resolve_declared targetsDeclared
  obtain ⟨second, _⟩ := resolve_declared moreDeclared
  obtain ⟨both, _⟩ := resolve_declared declared
  rw [List.flatMap_append] at both
  have split := keepFirst_append_filter (targets.flatMap graph.expansion)
    (more.flatMap graph.expansion)
  have members : ∀ task ∈ keepFirst (targets.flatMap graph.expansion), task ∈ graph.tasks :=
    fun task member => (mem_plan.mp member).1
  refine ⟨_, _, _, first, second, both, split, ⟨_, split.symm⟩, fun covered => ?_, ?_⟩
  · exact keepFirst_append_of_subset (mem_plan_of_covered covered)
  · refine resolve_ok_iff.mpr ⟨fun name member => ?_, ?_⟩
    · obtain ⟨task, planned, rfl⟩ := List.mem_map.mp member
      exact List.mem_map_of_mem (members task planned)
    · exact (plan_of_needsFirst ordered (nodup_keepFirst _) members).symm

theorem crossedNeeds_compose :
    ∃ graph plan whole, ofTasks crossedNeeds = .ok graph ∧ graph.resolve ["b"] = .ok plan ∧
      graph.resolve ["b", "a", "p"] = .ok whole ∧
      plan.map Task.name = ["q", "p", "b"] ∧ whole.map Task.name = ["q", "p", "b", "a"] ∧
      plan <+: whole ∧ graph.resolve ["q", "p", "b"] = .ok plan := by
  obtain ⟨graph, accepted⟩ : ∃ graph, ofTasks crossedNeeds = .ok graph := ⟨_, rfl⟩
  have declared : ∀ target ∈ ["b"] ++ ["a", "p"], target ∈ crossedNeeds.map Task.name := by decide
  obtain ⟨plan, _, whole, resolved, _, both, _, ahead, _, again⟩ := resolve_append accepted declared
  have planned : ((ofTasks crossedNeeds).bind fun graph =>
      (graph.resolve ["b"]).map (List.map Task.name)) = .ok ["q", "p", "b"] := rfl
  have plannedBoth : ((ofTasks crossedNeeds).bind fun graph =>
      (graph.resolve ["b", "a", "p"]).map (List.map Task.name)) = .ok ["q", "p", "b", "a"] := rfl
  rw [accepted, Except.bind, resolved] at planned
  rw [accepted, Except.bind, show graph.resolve ["b", "a", "p"] = .ok whole from both] at plannedBoth
  have names : plan.map Task.name = ["q", "p", "b"] := Except.ok.inj planned
  rw [names] at again
  exact ⟨graph, plan, whole, accepted, resolved, both, names, Except.ok.inj plannedBoth, ahead, again⟩

end Groundwork.TaskGraph
