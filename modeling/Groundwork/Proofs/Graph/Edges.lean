import Groundwork.Proofs.Graph.Acceptance
import Groundwork.Proofs.Graph.Plan
import Mathlib.Algebra.BigOperators.Group.Finset.Basic
import Mathlib.Algebra.GroupWithZero.Nat
import Mathlib.Data.Finset.Card

namespace Groundwork

/-! Edges mirror needs.

An edge leads from a need to a task that lists it, and there is one for each such pair, however often
the need is listed.  Edges are found in the reverse order of their making; that the dependents of a
name are in declaration order is due to the sort alone.
-/

namespace Graph

variable {tasks : List Task}

theorem mem_listedEdges {edge : Edge} :
    edge ∈ listedEdges tasks ↔ Needs tasks edge.task edge.need := by
  simp only [listedEdges, List.mem_flatMap, List.mem_map]
  constructor
  · rintro ⟨task, member, need, listed, rfl⟩
    exact ⟨task, member, rfl, listed⟩
  · rintro ⟨task, member, named, listed⟩
    exact ⟨task, member, edge.need, listed, by rw [named]⟩

theorem mem_addEdge {known : List Edge} {edge other : Edge} :
    other ∈ addEdge known edge ↔ other = edge ∨ other ∈ known := by
  unfold addEdge
  split
  · next old => exact ⟨.inr, fun either => either.elim (· ▸ old) id⟩
  · exact List.mem_cons

theorem addEdge_nodup {known : List Edge} (distinct : known.Nodup) (edge : Edge) :
    (addEdge known edge).Nodup := by
  unfold addEdge
  split
  · exact distinct
  · next fresh => exact List.nodup_cons.mpr ⟨fresh, distinct⟩

theorem mem_foldl_addEdge {listed known : List Edge} {edge : Edge} :
    edge ∈ listed.foldl addEdge known ↔ edge ∈ known ∨ edge ∈ listed := by
  induction listed generalizing known with
  | nil => simp
  | cons first rest ih =>
      rw [List.foldl_cons, ih, mem_addEdge, List.mem_cons]
      tauto

theorem foldl_addEdge_nodup {listed known : List Edge} (distinct : known.Nodup) :
    (listed.foldl addEdge known).Nodup := by
  induction listed generalizing known with
  | nil => exact distinct
  | cons first rest ih => exact ih (addEdge_nodup distinct first)

theorem mem_edges {edge : Edge} : edge ∈ edges tasks ↔ Needs tasks edge.task edge.need := by
  rw [edges, mem_foldl_addEdge, mem_listedEdges]
  exact or_iff_right List.not_mem_nil

theorem edges_nodup (tasks : List Task) : (edges tasks).Nodup :=
  foldl_addEdge_nodup .nil

/-- The edges from each of some names are all edges, where the names are distinct and none is left
out. -/
theorem sum_edges_from {names : List String} (distinct : names.Nodup) {edges : List Edge}
    (covered : ∀ edge ∈ edges, edge.need ∈ names) :
    (names.map fun name => (edges.filter fun edge => edge.need = name).length).sum =
      edges.length := by
  have counted (name : String) : (edges.filter fun edge => edge.need = name).length =
      (edges.map Edge.need : Multiset String).count name := by
    rw [Multiset.coe_count, ← List.countP_eq_length_filter, List.count_eq_countP, List.countP_map]
    rfl
  have all := Multiset.sum_count_eq_card (s := names.toFinset)
    (m := (edges.map Edge.need : Multiset String)) (by simpa using covered)
  rw [List.sum_toFinset _ distinct, Multiset.coe_card, List.length_map] at all
  simpa only [counted] using all

end Graph

namespace TaskGraph

open Groundwork.Graph

variable (graph : TaskGraph)

theorem mem_filterMap_get? {names : List String} {task : Task} :
    task ∈ names.filterMap graph.get? ↔ task ∈ graph.tasks ∧ task.name ∈ names := by
  simp only [List.mem_filterMap, get?_eq_some_iff]
  constructor
  · rintro ⟨name, listed, member, rfl⟩
    exact ⟨member, listed⟩
  · rintro ⟨member, listed⟩
    exact ⟨task.name, listed, member, rfl⟩

theorem names_filterMap_get? {names : List String}
    (declared : ∀ name ∈ names, name ∈ graph.tasks.map Task.name) :
    (names.filterMap graph.get?).map Task.name = names := by
  induction names with
  | nil => rfl
  | cons name rest ih =>
      obtain ⟨task, found⟩ := find?_exists (declared name List.mem_cons_self)
      rw [List.filterMap_cons_some (f := graph.get?) found, List.map_cons, (find?_some found).2,
        ih fun other member => declared other (List.mem_cons_of_mem _ member)]

theorem mem_neighbours {name : String} {task : Task} :
    task ∈ graph.neighbours name ↔ task ∈ graph.tasks ∧ name ∈ task.needs := by
  rw [neighbours, mem_filterMap_get?]
  refine and_congr_right fun member => ?_
  simp only [List.mem_map, List.mem_filter, edges, mem_edges, decide_eq_true_eq]
  constructor
  · rintro ⟨edge, ⟨⟨other, otherMember, named, listed⟩, rfl⟩, same⟩
    rwa [← task_eq_of_name_eq graph.names_nodup otherMember member (named.trans same)]
  · intro listed
    exact ⟨⟨name, task.name⟩, ⟨⟨task, member, rfl, listed⟩, rfl⟩, rfl⟩

theorem neighbours_names (name : String) :
    (graph.neighbours name).map Task.name =
      (graph.edges.filter fun edge => edge.need = name).map Edge.task := by
  refine graph.names_filterMap_get? fun other listed => ?_
  obtain ⟨edge, found, rfl⟩ := List.mem_map.mp listed
  obtain ⟨task, member, named, _⟩ := mem_edges.mp (List.mem_of_mem_filter found)
  exact List.mem_map.mpr ⟨task, member, named⟩

theorem neighbours_length (name : String) :
    (graph.neighbours name).length =
      (graph.edges.filter fun edge => edge.need = name).length := by
  simpa using congrArg List.length (graph.neighbours_names name)

theorem neighbours_names_nodup (name : String) :
    ((graph.neighbours name).map Task.name).Nodup := by
  rw [neighbours_names]
  refine ((edges_nodup graph.tasks).filter _).map_on ?_
  intro edge found other otherFound same
  have fromName : edge.need = name := by simpa using List.of_mem_filter found
  have otherFrom : other.need = name := by simpa using List.of_mem_filter otherFound
  cases edge
  cases other
  simp_all

theorem position_injective {task other : Task} (member : task ∈ graph.tasks)
    (otherMember : other ∈ graph.tasks)
    (same : graph.position task.name = graph.position other.name) : task = other :=
  task_eq_of_name_eq graph.names_nodup member otherMember
    ((List.idxOf_inj (List.mem_map_of_mem member)).mp same)

theorem tasks_pairwise_position :
    graph.tasks.Pairwise fun task other => graph.position task.name ≤ graph.position other.name := by
  refine List.pairwise_iff_getElem.mpr fun first second inside otherInside before => ?_
  have place (index : Nat) (bound : index < graph.tasks.length) :
      graph.position graph.tasks[index].name = index := by
    have found := graph.names_nodup.idxOf_getElem index (by simpa using bound)
    simpa [position] using found
  rw [place first inside, place second otherInside]
  exact before.le

/-- The sort puts the neighbours into declaration order: they are the tasks that list the name, and
tasks differ in their places. -/
theorem sorted_neighbours (name : String) :
    ((graph.neighbours name).mergeSort fun task other =>
      graph.position task.name ≤ graph.position other.name) =
    graph.tasks.filter fun task => name ∈ task.needs := by
  have same : (graph.neighbours name).Perm (graph.tasks.filter fun task => name ∈ task.needs) := by
    refine (List.perm_ext_iff_of_nodup (.of_map _ (graph.neighbours_names_nodup name))
      (.filter _ (.of_map _ graph.names_nodup))).mpr fun task => ?_
    rw [mem_neighbours, List.mem_filter, decide_eq_true_eq]
  refine List.Perm.eq_of_pairwise ?_ ?_ (graph.tasks_pairwise_position.filter _)
    ((List.mergeSort_perm _ _).trans same)
  · intro task other found otherFound before after
    rw [List.mem_mergeSort, mem_neighbours] at found
    exact graph.position_injective found.1 (List.mem_of_mem_filter otherFound)
      (Nat.le_antisymm before after)
  · refine (List.pairwise_mergeSort ?_ ?_ _).imp fun ordered => by simpa using ordered
    · intro task between other first second
      rw [decide_eq_true_eq] at first second ⊢
      exact first.trans second
    · intro task other
      simpa using Nat.le_total _ _

theorem filter_undeclared {name : String} (missing : graph.contains name ≠ true) :
    (graph.tasks.filter fun task => name ∈ task.needs) = [] := by
  refine List.filter_eq_nil_iff.mpr fun task member listed => missing ?_
  exact graph.contains_iff.mpr (graph.need_declared member (by simpa using listed))

theorem dependents_eq (name : String) :
    graph.dependents name = graph.tasks.filter fun task => name ∈ task.needs := by
  unfold dependents
  split
  · exact graph.sorted_neighbours name
  · next missing => exact (graph.filter_undeclared missing).symm

theorem dependents_length {name : String} (declared : graph.contains name = true) :
    (graph.dependents name).length =
      (graph.edges.filter fun edge => edge.need = name).length := by
  rw [dependents, if_pos declared, List.length_mergeSort, neighbours_length]

theorem sum_dependents :
    (graph.tasks.map fun task => (graph.dependents task.name).length).sum =
      graph.dependencyCount := by
  have covered : ∀ edge ∈ graph.edges, edge.need ∈ graph.tasks.map Task.name := by
    intro edge found
    obtain ⟨task, member, _, listed⟩ := mem_edges.mp found
    exact graph.need_declared member listed
  rw [dependencyCount, ← sum_edges_from graph.names_nodup covered, List.map_map]
  refine congrArg List.sum (List.map_congr_left fun task member => ?_)
  exact graph.dependents_length (graph.contains_iff.mpr (List.mem_map_of_mem member))

/-- The tasks with the needs that they list, each pair once. -/
def needPairs (tasks : List Task) : Finset (String × String) :=
  (tasks.flatMap fun task => task.needs.map fun need => (task.name, need)).toFinset

theorem mem_needPairs {tasks : List Task} {name need : String} :
    (name, need) ∈ needPairs tasks ↔ Needs tasks name need := by
  simp only [needPairs, List.mem_toFinset, List.mem_flatMap, List.mem_map, Prod.mk.injEq]
  constructor
  · rintro ⟨task, member, _, listed, rfl, rfl⟩
    exact ⟨task, member, rfl, listed⟩
  · rintro ⟨task, member, rfl, listed⟩
    exact ⟨task, member, need, listed, rfl, rfl⟩

theorem dependencyCount_eq : graph.dependencyCount = (needPairs graph.tasks).card := by
  have pairs : needPairs graph.tasks =
      (graph.edges.map fun edge => (edge.task, edge.need)).toFinset := by
    ext ⟨name, need⟩
    rw [mem_needPairs, List.mem_toFinset, List.mem_map]
    constructor
    · exact fun needed => ⟨⟨need, name⟩, mem_edges.mpr needed, rfl⟩
    · rintro ⟨edge, found, same⟩
      cases same
      exact mem_edges.mp found
  have distinct : (graph.edges.map fun edge => (edge.task, edge.need)).Nodup := by
    refine (edges_nodup graph.tasks).map ?_
    rintro ⟨need, name⟩ ⟨other, otherName⟩ same
    cases same
    rfl
  rw [pairs, List.toFinset_card_of_nodup distinct, List.length_map, dependencyCount]

/-- The second name is that of a dependent of the first. -/
def LeadsTo (name other : String) : Prop :=
  other ∈ (graph.dependents name).map Task.name

theorem leadsTo_eq : graph.LeadsTo = Function.swap (Needs graph.tasks) := by
  ext name other
  simp only [LeadsTo, dependents_eq, List.mem_map, List.mem_filter, decide_eq_true_eq, Needs]
  constructor
  · rintro ⟨task, ⟨member, listed⟩, named⟩
    exact ⟨task, member, named, listed⟩
  · rintro ⟨task, member, named, listed⟩
    exact ⟨task, ⟨member, listed⟩, named⟩

/-- The plan of one name holds the name itself and all from which dependents lead to it. -/
theorem leadsTo_iff_mem_plan {name need : String} (declared : graph.contains name = true)
    (needDeclared : graph.contains need = true) :
    ∃ plan, graph.resolve [name] = .ok plan ∧
      (Relation.TransGen graph.LeadsTo need name ↔ need ∈ planNames plan ∧ need ≠ name) := by
  have asked : ∀ target ∈ [name], target ∈ graph.tasks.map Task.name := by
    simpa using graph.contains_iff.mp declared
  obtain ⟨resolved, _⟩ := graph.resolve_declared asked
  refine ⟨_, resolved, ?_⟩
  rw [leadsTo_eq, Relation.transGen_swap, planNames, List.mem_map]
  constructor
  · intro reaches
    obtain ⟨task, member, rfl⟩ := List.mem_map.mp (graph.contains_iff.mp needDeclared)
    refine ⟨⟨task, mem_plan.mpr ⟨member, name, List.mem_cons_self, reaches.to_reflTransGen⟩, rfl⟩, ?_⟩
    rintro rfl
    exact graph.needs_acyclic _ reaches
  · rintro ⟨⟨task, planned, rfl⟩, other⟩
    obtain ⟨_, target, asked, reaches⟩ := mem_plan.mp planned
    rw [List.mem_singleton.mp asked] at reaches
    exact (Relation.reflTransGen_iff_eq_or_transGen.mp reaches).resolve_left other

/-- The dependents of a name are the tasks that list it, once each and in declaration order.  The
dependencies are the pairs of a task and a need, each counted at its need.  And to follow dependents
from a need comes to a task exactly when the plan of the task has the need. -/
theorem edges_mirror_needs {tasks : List Task} {graph : TaskGraph}
    (accepted : ofTasks tasks = .ok graph) :
    (∀ name, graph.dependents name = tasks.filter (fun task => name ∈ task.needs) ∧
      ((graph.dependents name).map Task.name).Nodup ∧
      (graph.contains name = false → graph.dependents name = [])) ∧
    graph.dependencyCount = (needPairs tasks).card ∧
    graph.dependencyCount = (tasks.map fun task => (graph.dependents task.name).length).sum ∧
    ∀ name need, graph.contains name = true → graph.contains need = true →
      ∃ plan, graph.resolve [name] = .ok plan ∧
        (Relation.TransGen graph.LeadsTo need name ↔ need ∈ planNames plan ∧ need ≠ name) := by
  have same := ofTasks_ok accepted
  subst same
  refine ⟨fun name => ⟨graph.dependents_eq name, ?_, ?_⟩, graph.dependencyCount_eq,
    graph.sum_dependents.symm, fun _ _ => graph.leadsTo_iff_mem_plan⟩
  · rw [dependents_eq]
    exact graph.names_nodup.sublist (List.filter_sublist.map _)
  · intro missing
    rw [dependents, missing, if_neg Bool.false_ne_true]

/-- Two tasks behind a third that both list, one of them twice, and all three behind a fourth. -/
def diamondNeeds : List Task :=
  [⟨"top", none, ["left", "right", "left"], []⟩, ⟨"left", none, ["base", "base"], []⟩,
    ⟨"right", none, ["base"], []⟩, ⟨"base", none, [], []⟩]

theorem diamond_needs_counted_once :
    ∃ graph, ofTasks diamondNeeds = .ok graph ∧
      (graph.dependents "base").map Task.name = ["left", "right"] ∧
      graph.dependents "other" = [] ∧ graph.dependencyCount = 4 ∧
      Relation.TransGen graph.LeadsTo "base" "top" := by
  obtain ⟨graph, accepted⟩ : ∃ graph, ofTasks diamondNeeds = .ok graph := ⟨_, rfl⟩
  obtain ⟨dependents, count, _, follow⟩ := edges_mirror_needs accepted
  have same := ofTasks_ok accepted
  have present (name : String) (listed : name ∈ diamondNeeds.map Task.name) :
      graph.contains name = true := graph.contains_iff.mpr (same ▸ listed)
  refine ⟨graph, accepted, ?_, ?_, ?_, ?_⟩
  · rw [(dependents "base").1]
    decide
  · rw [(dependents "other").1]
    decide
  · rw [count]
    decide
  · obtain ⟨plan, resolved, reaches⟩ :=
      follow "top" "base" (present "top" (by decide)) (present "base" (by decide))
    have computed : ((ofTasks diamondNeeds).bind fun graph =>
        (graph.resolve ["top"]).map planNames) = .ok ["base", "left", "right", "top"] := rfl
    rw [accepted, Except.bind, resolved] at computed
    have names : planNames plan = ["base", "left", "right", "top"] := Except.ok.inj computed
    exact reaches.mpr ⟨by rw [names]; decide, by decide⟩

end TaskGraph

end Groundwork
