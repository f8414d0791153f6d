import Groundwork.Proofs.Graph.Needs
import Mathlib.Data.List.Perm.Subperm

namespace Groundwork.TaskGraph

/-! What a traversal leaves out.

`expansion` writes out all that a task needs as often as it is needed.  A traversal passes over the
names that are marked, and its plan is the first occurrences of the expansions of what it visited:
a name is marked and not yet planned only while its own needs are visited, and as needs do not loop
back it cannot come up there.
-/

open Groundwork.Graph

/-- The expansions of the needs of a task in their listed order, then the task. -/
def expansion (graph : TaskGraph) (name : String) : List Task :=
  match _ : graph.get? name with
  | none => []
  | some task => task.needs.attach.flatMap (fun need => expansion graph need.1) ++ [task]
termination_by graph.needs_wellFounded.wrap name
decreasing_by exact graph.needs_of_get? ‹_› need.2

/-- Every task of a plan stands behind all its needs. -/
def NeedsFirst (plan : List Task) : Prop :=
  ∀ before task after, plan = before ++ task :: after →
    ∀ need ∈ task.needs, need ∈ before.map Task.name

variable {graph : TaskGraph}

theorem expansion_of_get? {name : String} {task : Task} (found : graph.get? name = some task) :
    graph.expansion name = task.needs.flatMap graph.expansion ++ [task] := by
  rw [expansion]
  split
  · next missing =>
      rw [found] at missing
      contradiction
  · next other same =>
      rw [found] at same
      cases same
      simp [List.flatMap_subtype]

theorem expansion_undeclared {name : String} (missing : graph.get? name = none) :
    graph.expansion name = [] := by
  rw [expansion]
  split
  · rfl
  · next other found =>
      rw [missing] at found
      contradiction

theorem mem_expansion {name : String} {task : Task} :
    task ∈ graph.expansion name ↔
      task ∈ graph.tasks ∧ Relation.ReflTransGen (Needs graph.tasks) name task.name := by
  induction name using graph.needs_wellFounded.induction with
  | _ name ih =>
      cases found : graph.get? name with
      | none =>
          rw [expansion_undeclared found]
          refine ⟨fun member => absurd member List.not_mem_nil, fun reached => ?_⟩
          rcases reached.2.cases_head with same | ⟨need, ⟨other, otherMember, named, _⟩, _⟩
          · rw [same, graph.get?_of_mem reached.1] at found
            contradiction
          · rw [← named, graph.get?_of_mem otherMember] at found
            contradiction
      | some root =>
          obtain ⟨rootMember, named⟩ := find?_some found
          rw [expansion_of_get? found, List.mem_append, List.mem_flatMap, List.mem_singleton]
          constructor
          · rintro (⟨need, needed, inside⟩ | rfl)
            · have step := graph.needs_of_get? found needed
              obtain ⟨member, reached⟩ := (ih need step).mp inside
              exact ⟨member, reached.head step⟩
            · exact ⟨rootMember, named ▸ .refl⟩
          · rintro ⟨member, reached⟩
            rcases reached.cases_head with same | ⟨need, step, rest⟩
            · rw [same, graph.get?_of_mem member] at found
              exact .inr (Option.some.inj found)
            · obtain ⟨other, otherMember, otherNamed, needed⟩ := step
              have same := task_eq_of_name_eq graph.names_nodup otherMember rootMember
                (otherNamed.trans named.symm)
              subst same
              exact .inl ⟨need, needed,
                (ih need ⟨other, otherMember, otherNamed, needed⟩).mpr ⟨member, rest⟩⟩

/-- As needs do not loop back, a task is not among the expansions of its needs. -/
theorem not_mem_expansion_of_needs {task : Task} (member : task ∈ graph.tasks) :
    task ∉ task.needs.flatMap graph.expansion := by
  intro inside
  obtain ⟨need, needed, expanded⟩ := List.mem_flatMap.mp inside
  have back := (mem_expansion.mp expanded).2
  exact graph.needs_acyclic task.name (.head' ⟨task, member, rfl, needed⟩ back)

theorem need_mem_expansion_of_needs {task : Task} (member : task ∈ graph.tasks) {need : String}
    (needed : need ∈ task.needs) :
    need ∈ (task.needs.flatMap graph.expansion).map Task.name := by
  obtain ⟨other, found⟩ := find?_exists (graph.need_declared member needed)
  obtain ⟨otherMember, named⟩ := find?_some found
  have expanded : other ∈ graph.expansion need := mem_expansion.mpr ⟨otherMember, named ▸ .refl⟩
  exact List.mem_map.mpr ⟨other, List.mem_flatMap.mpr ⟨need, needed, expanded⟩, named⟩

theorem NeedsFirst.concat {plan : List Task} {task : Task} (ordered : NeedsFirst plan)
    (planned : ∀ need ∈ task.needs, need ∈ plan.map Task.name) : NeedsFirst (plan ++ [task]) := by
  intro before other after split
  rcases List.eq_nil_or_concat after with rfl | ⟨rest, last, rfl⟩
  · obtain ⟨rfl, same⟩ := List.append_inj' split rfl
    cases same
    exact planned
  · rw [List.concat_eq_append, ← List.cons_append, ← List.append_assoc] at split
    exact ordered before other rest (List.append_inj' split rfl).1

theorem NeedsFirst.closed {plan : List Task} {task : Task} (ordered : NeedsFirst plan)
    (member : task ∈ plan) {need : String} (needed : need ∈ task.needs) :
    need ∈ plan.map Task.name := by
  obtain ⟨before, after, rfl⟩ := List.append_of_mem member
  have earlier := ordered before task after rfl need needed
  rw [List.map_append]
  exact List.mem_append_left _ earlier

namespace Traversal

/-- A traversal that has visited the names whose expansions make up the trail, and is now among
the needs of the names on the path. -/
structure Follows (graph : TaskGraph) (path : List String) (trail : List Task)
    (traversal : Traversal) : Prop where
  plan : traversal.plan = keepFirst trail
  members : ∀ task ∈ trail, task ∈ graph.tasks
  visited : ∀ name, name ∈ traversal.visited ↔ name ∈ trail.map Task.name ∨ name ∈ path
  ordered : NeedsFirst traversal.plan

variable {path : List String} {trail : List Task} {traversal : Traversal}

theorem start_follows : Follows graph [] [] ⟨[], []⟩ where
  plan := rfl
  members := by simp
  visited := by simp
  ordered := by
    intro before task after split
    simp at split

theorem Follows.mem_plan (follows : Follows graph path trail traversal) {task : Task} :
    task ∈ traversal.plan ↔ task ∈ trail := by
  rw [follows.plan, mem_keepFirst]

theorem Follows.mem_names (follows : Follows graph path trail traversal) {name : String} :
    name ∈ traversal.plan.map Task.name ↔ name ∈ trail.map Task.name := by
  simp only [List.mem_map, follows.mem_plan]

theorem Follows.need_mem (follows : Follows graph path trail traversal) {name need : String}
    (planned : name ∈ trail.map Task.name) (needed : Needs graph.tasks name need) :
    need ∈ trail.map Task.name := by
  obtain ⟨task, member, named⟩ := List.mem_map.mp planned
  obtain ⟨other, otherMember, otherNamed, listed⟩ := needed
  have same := task_eq_of_name_eq graph.names_nodup otherMember (follows.members task member)
    (otherNamed.trans named.symm)
  subst same
  exact follows.mem_names.mp (follows.ordered.closed (follows.mem_plan.mpr member) listed)

theorem Follows.covered (follows : Follows graph path trail traversal) {name : String}
    (planned : name ∈ trail.map Task.name) : ∀ task ∈ graph.expansion name, task ∈ trail := by
  have closed : ∀ other, Relation.ReflTransGen (Needs graph.tasks) name other →
      other ∈ trail.map Task.name := by
    intro other reached
    induction reached with
    | refl => exact planned
    | tail _ step ih => exact follows.need_mem ih step
  intro task inside
  obtain ⟨member, reached⟩ := mem_expansion.mp inside
  obtain ⟨other, otherMember, named⟩ := List.mem_map.mp (closed task.name reached)
  have same := task_eq_of_name_eq graph.names_nodup (follows.members other otherMember) member named
  exact same ▸ otherMember

theorem Follows.append_covered (follows : Follows graph path trail traversal) {more : List Task}
    (covered : ∀ task ∈ more, task ∈ trail) : Follows graph path (trail ++ more) traversal := by
  have same : ∀ task, task ∈ trail ++ more ↔ task ∈ trail := by
    intro task
    rw [List.mem_append]
    exact ⟨fun member => member.elim id (covered task), .inl⟩
  refine ⟨?_, ?_, ?_, follows.ordered⟩
  · rw [keepFirst_append_of_subset covered]
    exact follows.plan
  · intro task member
    exact follows.members task ((same task).mp member)
  · intro name
    simp only [follows.visited, List.mem_map, same]

theorem Follows.finish {name : String} {task : Task}
    (follows : Follows graph (name :: path) trail traversal)
    (found : graph.get? name = some task) (fresh : task ∉ trail)
    (planned : ∀ need ∈ task.needs, need ∈ trail.map Task.name) :
    Follows graph path (trail ++ [task]) ⟨traversal.visited, traversal.plan ++ [task]⟩ := by
  obtain ⟨member, named⟩ := find?_some found
  refine ⟨?_, ?_, ?_, ?_⟩
  · rw [keepFirst_concat fresh, ← follows.plan]
  · intro other otherMember
    rcases List.mem_append.mp otherMember with earlier | last
    · exact follows.members other earlier
    · exact List.mem_singleton.mp last ▸ member
  · intro other
    rw [follows.visited other]
    simp only [List.map_append, List.map_cons, List.map_nil, List.mem_append, List.mem_cons,
      List.not_mem_nil, or_false, named]
    tauto
  · exact follows.ordered.concat fun need needed => follows.mem_names.mpr (planned need needed)

/-- Names that are on the way to each other, all different, so that there are no more of them than
tasks. -/
structure Path (graph : TaskGraph) (path : List String) (name : String) : Prop where
  distinct : path.Nodup
  declared : ∀ earlier ∈ path, earlier ∈ graph.tasks.map Task.name
  reaches : ∀ earlier ∈ path, Relation.TransGen (Needs graph.tasks) earlier name

theorem Path.fresh {name : String} (leads : Path graph path name) : name ∉ path :=
  fun member => graph.needs_acyclic name (leads.reaches name member)

theorem Path.cons {name need : String} (leads : Path graph path name)
    (declared : name ∈ graph.tasks.map Task.name) (needed : Needs graph.tasks name need) :
    Path graph (name :: path) need := by
  refine ⟨List.nodup_cons.mpr ⟨leads.fresh, leads.distinct⟩, ?_, ?_⟩
  · intro earlier member
    rcases List.mem_cons.mp member with rfl | member
    · exact declared
    · exact leads.declared earlier member
  · intro earlier member
    rcases List.mem_cons.mp member with rfl | member
    · exact .single needed
    · exact (leads.reaches earlier member).tail needed

theorem Path.length_lt {name : String} (leads : Path graph path name)
    (declared : name ∈ graph.tasks.map Task.name) : path.length < graph.tasks.length := by
  have distinct : (name :: path).Nodup := List.nodup_cons.mpr ⟨leads.fresh, leads.distinct⟩
  have bounded := (List.subperm_of_subset distinct
    (List.cons_subset.mpr ⟨declared, leads.declared⟩)).length_le
  rw [List.length_cons, List.length_map] at bounded
  exact bounded

/-- Visits that add the expansions of their names add them one after another. -/
theorem Follows.foldl {names : List String} {step : Traversal → String → Traversal}
    (follows : Follows graph path trail traversal)
    (adds : ∀ name ∈ names, ∀ {trail : List Task} {traversal : Traversal},
      Follows graph path trail traversal →
        Follows graph path (trail ++ graph.expansion name) (step traversal name)) :
    Follows graph path (trail ++ names.flatMap graph.expansion) (names.foldl step traversal) := by
  induction names generalizing trail traversal with
  | nil => simpa using follows
  | cons name rest ih =>
      rw [List.flatMap_cons, ← List.append_assoc]
      exact ih (adds name List.mem_cons_self follows)
        fun other member => adds other (List.mem_cons_of_mem _ member)

theorem Follows.mark (follows : Follows graph path trail traversal) (name : String) :
    Follows graph (name :: path) trail ⟨name :: traversal.visited, traversal.plan⟩ := by
  refine ⟨follows.plan, follows.members, ?_, follows.ordered⟩
  intro other
  rw [List.mem_cons, follows.visited other, List.mem_cons]
  tauto

/-- A visit adds the naive expansion to the trail; the fuel is enough for the tasks that are not on
the path. -/
theorem Follows.visit {fuel : Nat} {name : String}
    (follows : Follows graph path trail traversal) (leads : Path graph path name)
    (declared : name ∈ graph.tasks.map Task.name)
    (enough : graph.tasks.length ≤ fuel + path.length) :
    Follows graph path (trail ++ graph.expansion name)
      (traversal.visit graph.tasks fuel name) := by
  induction fuel generalizing path trail traversal name with
  | zero =>
      -- The path holds different tasks, so that fuel is left wherever a visit gets to.
      have short := leads.length_lt declared
      omega
  | succ fuel ih =>
      obtain ⟨task, found⟩ := find?_exists declared
      obtain ⟨member, named⟩ := find?_some found
      unfold Traversal.visit
      split
      · next marked =>
          -- A marked name is planned or on the path, and on the path it would need itself.
          have planned := ((follows.visited name).mp marked).resolve_right leads.fresh
          exact follows.append_covered (follows.covered planned)
      · next unmarked =>
          have unplanned : task ∉ trail := fun inside =>
            unmarked ((follows.visited name).mpr (.inl (named ▸ List.mem_map_of_mem inside)))
          have inside := (follows.mark name).foldl fun need needed _ _ before =>
            ih before (leads.cons declared (graph.needs_of_get? found needed))
              (graph.need_declared member needed) (by rw [List.length_cons]; omega)
          rw [found, expansion_of_get? found, ← List.append_assoc]
          refine inside.finish found ?_ fun need needed => ?_
          · rw [List.mem_append]
            exact fun present => present.elim unplanned (not_mem_expansion_of_needs member)
          · rw [List.map_append]
            exact List.mem_append_right _ (need_mem_expansion_of_needs member needed)

end Traversal

end Groundwork.TaskGraph
