import Groundwork.Graph.Basic
import Mathlib.Data.List.Nodup
import Mathlib.Logic.Relation
import Mathlib.Order.RelClasses

namespace Groundwork

/-! Needs as a relation between names.

An accepted graph declares every name once and declares every need, and to follow needs from a task
comes to an end, so that no task is reached from itself.
-/

namespace Graph

variable {tasks : List Task}

/-- A task of the first name lists the second among its needs. -/
def Needs (tasks : List Task) (name need : String) : Prop :=
  ∃ task ∈ tasks, task.name = name ∧ need ∈ task.needs

theorem find?_some {name : String} {task : Task} (found : find? tasks name = some task) :
    task ∈ tasks ∧ task.name = name :=
  ⟨List.mem_of_find?_eq_some found, by simpa using List.find?_some found⟩

theorem find?_exists {name : String} (declared : name ∈ tasks.map Task.name) :
    ∃ task, find? tasks name = some task := by
  obtain ⟨task, member, named⟩ := List.mem_map.mp declared
  exact Option.isSome_iff_exists.mp
    (List.find?_isSome.mpr ⟨task, member, decide_eq_true named⟩)

theorem task_eq_of_name_eq (distinct : (tasks.map Task.name).Nodup) {task other : Task}
    (member : task ∈ tasks) (otherMember : other ∈ tasks) (same : task.name = other.name) :
    task = other :=
  List.inj_on_of_nodup_map distinct member otherMember same

theorem find?_of_mem (distinct : (tasks.map Task.name).Nodup) {task : Task}
    (member : task ∈ tasks) : find? tasks task.name = some task := by
  obtain ⟨other, found⟩ := find?_exists (List.mem_map_of_mem (f := Task.name) member)
  obtain ⟨otherMember, named⟩ := find?_some found
  rw [found, task_eq_of_name_eq distinct otherMember member named]

theorem firstUndeclared?_eq_none :
    firstUndeclared? tasks = none ↔
      ∀ task ∈ tasks, ∀ need ∈ task.needs, need ∈ tasks.map Task.name := by
  simp [firstUndeclared?, List.findSome?_eq_none_iff]

/-- Tasks that are taken out in rounds have needs that end: those of a ready task were taken out
before it. -/
theorem unplaced_accessible (distinct : (tasks.map Task.name).Nodup) {rounds : Nat}
    {placed : List String} {remaining : List Task}
    (members : ∀ task ∈ remaining, task ∈ tasks)
    (ended : ∀ name ∈ placed, Acc (Function.swap (Needs tasks)) name)
    (empty : unplaced rounds placed remaining = []) :
    ∀ task ∈ remaining, Acc (Function.swap (Needs tasks)) task.name := by
  induction rounds generalizing placed remaining with
  | zero =>
      rw [unplaced] at empty
      simp [empty]
  | succ rounds ih =>
      have readyEnded : ∀ task ∈ remaining, (∀ need ∈ task.needs, need ∈ placed) →
          Acc (Function.swap (Needs tasks)) task.name := by
        intro task member ready
        refine ⟨_, fun need needed => ?_⟩
        obtain ⟨other, otherMember, named, listed⟩ := needed
        have same := task_eq_of_name_eq distinct otherMember (members task member) named
        subst same
        exact ended need (ready need listed)
      intro task member
      by_cases ready : ∀ need ∈ task.needs, need ∈ placed
      · exact readyEnded task member ready
      · refine ih ?_ ?_ empty task ?_
        · intro other otherMember
          exact members other (List.mem_of_mem_filter otherMember)
        · intro name taken
          rcases List.mem_append.mp taken with new | old
          · obtain ⟨other, otherMember, named⟩ := List.mem_map.mp new
            obtain ⟨inside, otherReady⟩ := List.mem_filter.mp otherMember
            rw [← named]
            exact readyEnded other inside (by simpa using otherReady)
          · exact ended name old
        · simpa [member] using ready

end Graph

namespace TaskGraph

open Groundwork.Graph

variable (graph : TaskGraph)

theorem ofTasks_ok {tasks : List Task} {graph : TaskGraph} (accepted : ofTasks tasks = .ok graph) :
    graph.tasks = tasks := by
  unfold ofTasks at accepted
  split at accepted
  · contradiction
  · split at accepted
    · contradiction
    · split at accepted
      · cases accepted
        rfl
      · contradiction

theorem names_nodup : (graph.tasks.map Task.name).Nodup :=
  (firstRepeated?_eq_none.mp graph.distinct).1

theorem need_declared {task : Task} (member : task ∈ graph.tasks) {need : String}
    (needed : need ∈ task.needs) : need ∈ graph.tasks.map Task.name :=
  firstUndeclared?_eq_none.mp graph.declared task member need needed

theorem get?_of_mem {task : Task} (member : task ∈ graph.tasks) :
    graph.get? task.name = some task :=
  find?_of_mem graph.names_nodup member

theorem contains_iff {name : String} :
    graph.contains name = true ↔ name ∈ graph.tasks.map Task.name := by
  constructor
  · intro present
    obtain ⟨task, found⟩ := Option.isSome_iff_exists.mp present
    obtain ⟨member, named⟩ := find?_some found
    exact List.mem_map.mpr ⟨task, member, named⟩
  · intro declared
    exact Option.isSome_iff_exists.mpr (find?_exists declared)

theorem needs_of_get? {name : String} {task : Task} (found : graph.get? name = some task)
    {need : String} (needed : need ∈ task.needs) : Needs graph.tasks name need :=
  ⟨task, (find?_some found).1, (find?_some found).2, needed⟩

theorem needs_wellFounded : WellFounded (Function.swap (Needs graph.tasks)) := by
  have empty : unplaced graph.tasks.length [] graph.tasks = [] :=
    List.isEmpty_iff.mp graph.orderable
  have accessible := unplaced_accessible graph.names_nodup (fun _ member => member)
    (fun _ none => absurd none List.not_mem_nil) empty
  refine ⟨fun name => ⟨name, fun need needed => ?_⟩⟩
  obtain ⟨task, member, named, listed⟩ := needed
  exact (accessible task member).inv ⟨task, member, rfl, listed⟩

theorem needs_acyclic (name : String) : ¬ Relation.TransGen (Needs graph.tasks) name name := by
  intro cycle
  have turned := Relation.transGen_swap.mpr cycle
  exact graph.needs_wellFounded.transGen.asymmetric name name turned turned

end TaskGraph

end Groundwork
