import Groundwork.Proofs.Graph.Acceptance
import Groundwork.Proofs.Graph.Reach
import Mathlib.Data.List.Chain
import Mathlib.Data.List.Perm.Subperm

namespace Groundwork

/-! The cycle that is reported is one.

Every task of a component needs a task of the component, so that a walk inside it can always go on.
As it stays among finitely many names it comes back to one of them, and it stops the first time that
it does.
-/

namespace Graph

variable {tasks : List Task}

/-- A walk that goes on: what it marks on the way it also finishes. -/
structure Walk.Extends (earlier later : Walk) : Prop where
  marked : earlier.marked ⊆ later.marked
  finished : ∀ name ∈ later.marked,
    name ∈ later.finished ∨ (name ∈ earlier.marked ∧ name ∉ earlier.finished)

theorem Walk.Extends.refl (walk : Walk) : Walk.Extends walk walk := by
  refine ⟨List.Subset.refl _, fun name member => ?_⟩
  by_cases finished : name ∈ walk.finished
  · exact .inl finished
  · exact .inr ⟨member, finished⟩

theorem Walk.Extends.trans {earlier between later : Walk} (first : Walk.Extends earlier between)
    (second : Walk.Extends between later) : Walk.Extends earlier later := by
  refine ⟨fun name member => second.marked (first.marked member), fun name member => ?_⟩
  rcases second.finished name member with finished | ⟨marked, unfinished⟩
  · exact .inl finished
  · exact .inr ((first.finished name marked).resolve_left unfinished)

theorem Walk.Extends.foldl {step : Walk → String → Walk}
    (extended : ∀ walk name, Walk.Extends walk (step walk name)) (names : List String) (walk : Walk) :
    Walk.Extends walk (names.foldl step walk) := by
  induction names generalizing walk with
  | nil => exact .refl walk
  | cons name rest ih => exact (extended walk name).trans (ih _)

theorem Walk.extends_visit (tasks : List Task) (fuel : Nat) (walk : Walk) (name : String) :
    Walk.Extends walk (walk.visit tasks fuel name) := by
  induction fuel generalizing walk name with
  | zero => exact .refl walk
  | succ fuel ih =>
      rw [Walk.visit]
      split
      · exact .refl walk
      · have inside := Walk.Extends.foldl ih (needsOf tasks name)
          ⟨name :: walk.marked, walk.finished⟩
        refine ⟨fun other member => inside.marked (List.mem_cons_of_mem _ member), ?_⟩
        intro other member
        rcases inside.finished other member with finished | ⟨marked, unfinished⟩
        · exact .inl (List.mem_cons_of_mem _ finished)
        · rcases List.mem_cons.mp marked with rfl | marked
          · exact .inl List.mem_cons_self
          · exact .inr ⟨marked, unfinished⟩

theorem Walk.marked_visit (tasks : List Task) (fuel : Nat) (walk : Walk) (name : String) :
    name ∈ (walk.visit tasks (fuel + 1) name).marked := by
  rw [Walk.visit]
  split
  · next marked => exact marked
  · have inside := Walk.Extends.foldl (Walk.extends_visit tasks fuel) (needsOf tasks name)
      ⟨name :: walk.marked, walk.finished⟩
    exact inside.marked List.mem_cons_self

theorem Walk.marked_foldl (tasks : List Task) (fuel : Nat) {names : List String} {name : String}
    (listed : name ∈ names) (walk : Walk) :
    name ∈ (names.foldl (Walk.visit tasks (fuel + 1)) walk).marked := by
  induction names generalizing walk with
  | nil => contradiction
  | cons first rest ih =>
      rcases List.mem_cons.mp listed with rfl | later
      · exact (Walk.Extends.foldl (Walk.extends_visit tasks (fuel + 1)) rest _).marked
          (Walk.marked_visit tasks fuel walk name)
      · exact ih later _

theorem mem_finishOrder {name : String} (declared : name ∈ tasks.map Task.name) :
    name ∈ finishOrder tasks := by
  have visited := Walk.marked_foldl tasks tasks.length declared ⟨[], []⟩
  have goesOn := Walk.Extends.foldl (Walk.extends_visit tasks (tasks.length + 1))
    (tasks.map Task.name) ⟨[], []⟩
  exact (goesOn.finished name visited).resolve_right fun earlier =>
    absurd earlier.1 List.not_mem_nil

theorem component_head {name start : String} {rest : List String}
    (distinct : (tasks.map Task.name).Nodup) (found : component tasks name = start :: rest) :
    ∃ before task after, tasks = before ++ task :: after ∧ task.name = start ∧
      ∀ other ∈ before, ¬ Connected tasks name other.name := by
  obtain ⟨earlier, later, split, outside, _⟩ := List.filter_eq_cons_iff.mp found
  obtain ⟨before, others, whole, rfl, named⟩ := List.map_eq_append_iff.mp split
  obtain ⟨task, after, rfl, rfl, rfl⟩ := List.map_eq_cons_iff.mp named
  refine ⟨before, task, after, whole, rfl, fun other member connected => ?_⟩
  apply outside other.name (List.mem_map_of_mem member)
  rw [Bool.and_eq_true, List.contains_iff_mem, List.contains_iff_mem, mem_reached distinct,
    mem_reached distinct]
  exact connected

/-- A walk among names that all need one of them comes back: it goes on through names that it has
not seen, and ends at one that it has. -/
theorem follow_returns {members seen : List String} {fuel : Nat} {current : String}
    (closed : ∀ name ∈ members, ∃ need ∈ needsOf tasks name, need ∈ members)
    (inside : current ∈ members) (within : seen ⊆ members) (distinct : seen.Nodup)
    (enough : members.length < fuel + seen.length) :
    ∃ fresh last, follow tasks members fuel seen current = current :: (fresh ++ [last]) ∧
      (fresh ++ seen).Nodup ∧ fresh ++ seen ⊆ members ∧ last ∈ fresh ++ seen ∧
      List.IsChain (Needs tasks) (current :: (fresh ++ [last])) := by
  induction fuel generalizing seen current with
  | zero =>
      -- More different names cannot have been seen than there are members.
      have bounded := (List.subperm_of_subset distinct within).length_le
      omega
  | succ fuel ih =>
      obtain ⟨need, needed, member⟩ := closed current inside
      obtain ⟨next, found⟩ := Option.isSome_iff_exists.mp
        (List.find?_isSome.mpr ⟨need, needed, List.contains_iff_mem.mpr member⟩)
      have step : Needs tasks current next := needs_of_mem_needsOf (List.mem_of_find?_eq_some found)
      have nextInside : next ∈ members := List.contains_iff_mem.mp (List.find?_some found)
      simp only [follow, found]
      split
      · next old =>
          exact ⟨[], next, rfl, distinct, within, old,
            List.isChain_cons_cons.mpr ⟨step, List.IsChain.singleton next⟩⟩
      · next unseen =>
          obtain ⟨fresh, last, path, nodup, among, back, chain⟩ := ih nextInside
            (List.cons_subset.mpr ⟨nextInside, within⟩) (List.nodup_cons.mpr ⟨unseen, distinct⟩)
            (by rw [List.length_cons]; omega)
          have moved : List.Perm (fresh ++ next :: seen) (next :: fresh ++ seen) := List.perm_middle
          refine ⟨next :: fresh, last, congrArg (current :: ·) path, moved.nodup_iff.mp nodup,
            fun name listed => among (moved.mem_iff.mpr listed), moved.mem_iff.mp back, ?_⟩
          exact List.isChain_cons_cons.mpr ⟨step, chain⟩

theorem component_closed (distinct : (tasks.map Task.name).Nodup) {name other : String}
    (member : other ∈ component tasks name) :
    ∃ need ∈ needsOf tasks other, need ∈ component tasks name := by
  obtain ⟨need, needed, connected⟩ := ((mem_component distinct).mp member).exists_need
  exact ⟨need, (mem_needsOf distinct).mpr needed, (mem_component distinct).mpr connected⟩

theorem length_component_le (tasks : List Task) (name : String) :
    (component tasks name).length ≤ tasks.length := by
  have bounded : (component tasks name).length ≤ (tasks.map Task.name).length :=
    List.length_filter_le ..
  rwa [List.length_map] at bounded

/-- Where there is a cycle, the path is a walk through a component that ends where it has been. -/
theorem cyclePath_eq (distinct : (tasks.map Task.name).Nodup) (cyclic : HasCycle tasks) :
    ∃ name start rest fresh last, component tasks name = start :: rest ∧
      Connected tasks name start ∧
      cyclePath tasks = start :: (fresh ++ [last]) ∧
      (start :: fresh).Nodup ∧ start :: fresh ⊆ component tasks name ∧ last ∈ start :: fresh ∧
      List.IsChain (Needs tasks) (cyclePath tasks) := by
  obtain ⟨task, declared, cycle⟩ := cyclic
  obtain ⟨name, found⟩ := Option.isSome_iff_exists.mp (List.find?_isSome.mpr
    ⟨task.name, mem_finishOrder (List.mem_map_of_mem declared), (isOnCycle_iff distinct).mpr cycle⟩)
  have onCycle := (isOnCycle_iff distinct).mp (List.find?_some found)
  have own : name ∈ component tasks name := (mem_component distinct).mpr (connected_self.mpr onCycle)
  cases members : component tasks name with
  | nil =>
      rw [members] at own
      contradiction
  | cons start rest =>
      have inside : start ∈ component tasks name := by rw [members]; exact List.mem_cons_self
      have bound := length_component_le tasks name
      have enough : (component tasks name).length < tasks.length + [start].length := by
        rw [List.length_singleton]
        omega
      obtain ⟨fresh, last, path, nodup, among, back, chain⟩ :=
        follow_returns (fun other => component_closed distinct) inside
          (List.cons_subset.mpr ⟨inside, List.nil_subset _⟩) (List.nodup_singleton start) enough
      have same : cyclePath tasks = start :: (fresh ++ [last]) := by
        rw [← path]
        simp only [cyclePath, found, members]
      have turned : List.Perm (fresh ++ [start]) (start :: fresh) := List.perm_append_singleton start fresh
      refine ⟨name, start, rest, fresh, last, members, (mem_component distinct).mp inside, same,
        turned.nodup_iff.mp nodup, fun other listed => among (turned.mem_iff.mpr listed),
        turned.mem_iff.mp back, ?_⟩
      rwa [same]

end Graph

namespace TaskGraph

open Groundwork.Graph

theorem ofTasks_eq_cycle {tasks : List Task} {path : List String}
    (rejected : ofTasks tasks = .error (.cycle path)) :
    (tasks.map Task.name).Nodup ∧ HasCycle tasks ∧ path = cyclePath tasks := by
  cases repeated : firstRepeated? [] (tasks.map Task.name) with
  | some name => simp [ofTasks_duplicate repeated] at rejected
  | none =>
      have distinct := firstRepeated?_names_eq_none.mp repeated
      cases undeclared : firstUndeclared? tasks with
      | some missing => simp [ofTasks_undeclared repeated undeclared] at rejected
      | none =>
          cases orderable : isOrderable tasks with
          | true => simp [ofTasks_accepted repeated undeclared orderable] at rejected
          | false =>
              rw [ofTasks_cycle repeated undeclared orderable] at rejected
              have stuck := isOrderable_iff distinct (firstUndeclared?_eq_none.mp undeclared)
              rw [orderable] at stuck
              refine ⟨distinct, Classical.not_not.mp fun acyclic => ?_, ?_⟩
              · exact Bool.false_ne_true (stuck.mpr acyclic)
              · cases rejected
                rfl

/-- The path that a cycle is reported by follows needs, names no task twice before it comes back to
one, and stays on cycles: it goes through the tasks that are connected to its first, which is the
earliest declared of them, and takes no more steps than there are such tasks. -/
theorem ofTasks_reports_cycle {tasks : List Task} {path : List String}
    (rejected : ofTasks tasks = .error (.cycle path)) :
    (∃ lead name loop, path = lead ++ name :: loop ++ [name] ∧ (lead ++ name :: loop).Nodup) ∧
      List.IsChain (Needs tasks) path ∧
      (∀ name ∈ path, Relation.TransGen (Needs tasks) name name) ∧
      ∃ before task after, ∃ members : List String, tasks = before ++ task :: after ∧
        path.head? = some task.name ∧
        (∀ other ∈ before, ¬ Connected tasks task.name other.name) ∧
        members.Nodup ∧ (∀ name, name ∈ members ↔ Connected tasks task.name name) ∧
        (∀ name ∈ path, name ∈ members) ∧ path.length ≤ members.length + 1 := by
  obtain ⟨distinct, cyclic, rfl⟩ := ofTasks_eq_cycle rejected
  obtain ⟨name, start, rest, fresh, last, members, connected, path, nodup, among, back, chain⟩ :=
    cyclePath_eq distinct cyclic
  have inside : ∀ other ∈ cyclePath tasks, other ∈ component tasks name := by
    intro other listed
    rw [path, ← List.cons_append] at listed
    rcases List.mem_append.mp listed with passed | ended
    · exact among passed
    · exact among (List.mem_singleton.mp ended ▸ back)
  obtain ⟨before, task, after, whole, rfl, earlier⟩ := component_head distinct members
  refine ⟨?_, chain, ?_, before, task, after, component tasks name, whole, ?_, ?_,
    component_nodup distinct name, ?_, inside, ?_⟩
  · obtain ⟨lead, loop, split⟩ := List.append_of_mem back
    exact ⟨lead, last, loop, by rw [path, ← split]; rfl, split ▸ nodup⟩
  · intro other listed
    have reached := (mem_component distinct).mp (inside other listed)
    exact reached.2.trans reached.1
  · rw [path]
    rfl
  · exact fun other member backwards => earlier other member (connected.trans backwards)
  · intro other
    rw [mem_component distinct]
    exact ⟨connected.symm.trans, connected.trans⟩
  · have bounded := (List.subperm_of_subset nodup among).length_le
    rw [path]
    simpa using bounded

/-- Three tasks that reach each other, of which the walk passes the first only once. -/
def tangledNeeds : List Task :=
  [⟨"root", none, [], []⟩, ⟨"a", none, ["root", "b"], []⟩, ⟨"b", none, ["c"], []⟩,
    ⟨"c", none, ["b", "a"], []⟩]

theorem tangledNeeds_cycle :
    ofTasks tangledNeeds = .error (.cycle ["a", "b", "c", "b"]) ∧
      List.IsChain (Needs tangledNeeds) ["a", "b", "c", "b"] ∧
      ∀ name ∈ ["a", "b", "c", "b"], Relation.TransGen (Needs tangledNeeds) name name := by
  have rejected : ofTasks tangledNeeds = .error (.cycle ["a", "b", "c", "b"]) := rfl
  obtain ⟨_, chain, cycles, _⟩ := ofTasks_reports_cycle rejected
  exact ⟨rejected, chain, cycles⟩

end TaskGraph

end Groundwork
