import Groundwork.Proofs.Graph.Needs
import Mathlib.Order.WellFoundedSet

namespace Groundwork

/-! Which declarations make a graph.

Of several faults a repeated name is reported before an undeclared need, and that before a cycle.  The
rounds in which ready tasks are taken out come to a stop early exactly when some task is reached from
itself: as long as tasks remain and needs do not loop back, one of them is ready.
-/

namespace Graph

variable {tasks : List Task}

/-- The first declaration whose name an earlier declaration has. -/
def FirstRepeated (tasks : List Task) (task : Task) : Prop :=
  ∃ before after, tasks = before ++ task :: after ∧ (before.map Task.name).Nodup ∧
    task.name ∈ before.map Task.name

/-- The first task that needs an undeclared name, and its first such need. -/
def FirstUndeclared (tasks : List Task) (task : Task) (need : String) : Prop :=
  ∃ before after earlier later, tasks = before ++ task :: after ∧
    task.needs = earlier ++ need :: later ∧
    (∀ other ∈ before, ∀ name ∈ other.needs, name ∈ tasks.map Task.name) ∧
    (∀ name ∈ earlier, name ∈ tasks.map Task.name) ∧ need ∉ tasks.map Task.name

def AllDeclared (tasks : List Task) : Prop :=
  ∀ task ∈ tasks, ∀ need ∈ task.needs, need ∈ tasks.map Task.name

def HasCycle (tasks : List Task) : Prop :=
  ∃ task ∈ tasks, Relation.TransGen (Needs tasks) task.name task.name

theorem firstRepeated?_names_eq_none :
    firstRepeated? [] (tasks.map Task.name) = none ↔ (tasks.map Task.name).Nodup := by
  simp [firstRepeated?_eq_none]

theorem firstRepeated?_names {name : String}
    (repeated : firstRepeated? [] (tasks.map Task.name) = some name) :
    ∃ task, FirstRepeated tasks task ∧ task.name = name := by
  obtain ⟨before, after, split, distinct, _, again⟩ := firstRepeated?_eq_some repeated
  obtain ⟨earlier, rest, rfl, rfl, restNames⟩ := List.map_eq_append_iff.mp split
  obtain ⟨task, later, rfl, rfl, rfl⟩ := List.map_eq_cons_iff.mp restNames
  exact ⟨task, ⟨earlier, later, rfl, distinct, again.resolve_left List.not_mem_nil⟩, rfl⟩

theorem firstUndeclared?_eq_some {name need : String}
    (found : firstUndeclared? tasks = some (name, need)) :
    ∃ task, FirstUndeclared tasks task need ∧ task.name = name := by
  obtain ⟨before, task, after, split, missing, passed⟩ := List.findSome?_eq_some_iff.mp found
  obtain ⟨undeclared, here, same⟩ := Option.map_eq_some_iff.mp missing
  cases same
  obtain ⟨absent, earlier, later, needs, present⟩ := List.find?_eq_some_iff_append.mp here
  refine ⟨task, ⟨before, after, earlier, later, split, needs, ?_, ?_, ?_⟩, rfl⟩
  · intro other member
    simpa using passed other member
  · intro declared member
    simpa using present declared member
  · simpa using absent

theorem not_hasCycle (acyclic : ¬ HasCycle tasks) (name : String) :
    ¬ Relation.TransGen (Needs tasks) name name := by
  intro cycle
  obtain ⟨_, ⟨task, member, named, _⟩, _⟩ := Relation.TransGen.head'_iff.mp cycle
  subst named
  exact acyclic ⟨task, member, cycle⟩

/-- Of some tasks that need each other or what is placed, one is ready: to follow needs that are not
placed comes to an end. -/
theorem exists_ready (acyclic : ¬ HasCycle tasks) {placed : List String} {remaining : List Task}
    (members : ∀ task ∈ remaining, task ∈ tasks)
    (known : ∀ task ∈ remaining, ∀ need ∈ task.needs,
      need ∈ placed ∨ need ∈ remaining.map Task.name)
    (waiting : remaining ≠ []) :
    ∃ task ∈ remaining, ∀ need ∈ task.needs, need ∈ placed := by
  have order : IsStrictOrder String fun need name => Relation.TransGen (Needs tasks) name need :=
    { irrefl := not_hasCycle acyclic
      trans := fun _ _ _ first second => second.trans first }
  have founded := (List.finite_toSet (remaining.map Task.name)).wellFoundedOn
    (r := fun need name => Relation.TransGen (Needs tasks) name need)
  obtain ⟨first, inside⟩ := List.exists_mem_of_ne_nil remaining waiting
  refine founded.induction (P := fun _ => ∃ task ∈ remaining, ∀ need ∈ task.needs, need ∈ placed)
    (List.mem_map_of_mem (f := Task.name) inside) ?_
  intro name listed ih
  obtain ⟨task, member, rfl⟩ := List.mem_map.mp listed
  by_cases ready : ∀ need ∈ task.needs, need ∈ placed
  · exact ⟨task, member, ready⟩
  · push Not at ready
    obtain ⟨need, needed, missing⟩ := ready
    exact ih need ((known task member need needed).resolve_left missing)
      (.single ⟨task, members task member, rfl, needed⟩)

/-- Rounds that are as many as the tasks take out all of them: no round passes without a ready
task. -/
theorem unplaced_eq_nil (acyclic : ¬ HasCycle tasks) {rounds : Nat} {placed : List String}
    {remaining : List Task} (members : ∀ task ∈ remaining, task ∈ tasks)
    (known : ∀ task ∈ remaining, ∀ need ∈ task.needs,
      need ∈ placed ∨ need ∈ remaining.map Task.name)
    (enough : remaining.length ≤ rounds) : unplaced rounds placed remaining = [] := by
  induction rounds generalizing placed remaining with
  | zero => exact List.length_eq_zero_iff.mp (Nat.le_zero.mp enough)
  | succ rounds ih =>
      simp only [unplaced]
      refine ih (fun task waiting => members task (List.mem_of_mem_filter waiting)) ?_ ?_
      · intro task waiting need needed
        rcases known task (List.mem_of_mem_filter waiting) need needed with before | later
        · exact .inl (List.mem_append_right _ before)
        · -- A task that was waited for is either taken out in this round or waits on.
          obtain ⟨other, member, rfl⟩ := List.mem_map.mp later
          cases ready : other.needs.all (fun need => placed.contains need) with
          | true =>
              exact .inl (List.mem_append_left _
                (List.mem_map_of_mem (List.mem_filter.mpr ⟨member, ready⟩)))
          | false =>
              exact .inr (List.mem_map_of_mem (List.mem_filter.mpr ⟨member, by rw [ready]; rfl⟩))
      · by_cases none : remaining = []
        · simp [none]
        · obtain ⟨task, member, ready⟩ := exists_ready acyclic members known none
          have fewer : (remaining.filter fun task =>
              !task.needs.all fun need => placed.contains need).length < remaining.length :=
            List.length_filter_lt_length_iff_exists.mpr ⟨task, member, by simpa using ready⟩
          omega

end Graph

namespace TaskGraph

open Groundwork.Graph

theorem isOrderable_iff {tasks : List Task} (distinct : (tasks.map Task.name).Nodup)
    (declared : AllDeclared tasks) : isOrderable tasks = true ↔ ¬ HasCycle tasks := by
  constructor
  · rintro orderable ⟨task, _, cycle⟩
    let graph : TaskGraph :=
      ⟨tasks, firstRepeated?_names_eq_none.mpr distinct, firstUndeclared?_eq_none.mpr declared,
        orderable⟩
    exact graph.needs_acyclic task.name cycle
  · intro acyclic
    exact List.isEmpty_iff.mpr (unplaced_eq_nil acyclic (fun _ member => member)
      (fun task member need needed => .inr (declared task member need needed)) (Nat.le_refl _))

theorem get?_eq_some_iff (graph : TaskGraph) {name : String} {task : Task} :
    graph.get? name = some task ↔ task ∈ graph.tasks ∧ task.name = name := by
  constructor
  · exact find?_some
  · rintro ⟨member, rfl⟩
    exact graph.get?_of_mem member

section Verdicts

variable {tasks : List Task}

theorem ofTasks_duplicate {name : String}
    (found : firstRepeated? [] (tasks.map Task.name) = some name) :
    ofTasks tasks = .error (.duplicateTask name) := by
  unfold ofTasks
  split
  · simp_all
  · simp_all

theorem ofTasks_undeclared {name need : String}
    (distinct : firstRepeated? [] (tasks.map Task.name) = none)
    (found : firstUndeclared? tasks = some (name, need)) :
    ofTasks tasks = .error (.unknownPrerequisite name need) := by
  unfold ofTasks
  split
  · simp_all
  · split <;> simp_all

theorem ofTasks_cycle (distinct : firstRepeated? [] (tasks.map Task.name) = none)
    (declared : firstUndeclared? tasks = none) (stuck : isOrderable tasks = false) :
    ofTasks tasks = .error (.cycle (cyclePath tasks)) := by
  unfold ofTasks
  split
  · simp_all
  · split <;> simp_all

theorem ofTasks_accepted (distinct : firstRepeated? [] (tasks.map Task.name) = none)
    (declared : firstUndeclared? tasks = none) (orderable : isOrderable tasks = true) :
    ofTasks tasks = .ok ⟨tasks, distinct, declared, orderable⟩ := by
  unfold ofTasks
  split
  · simp_all
  · split <;> simp_all

end Verdicts

/-- Declarations are accepted exactly when every name is declared once, every need is declared and no
task is reached from itself; otherwise the first fault of the first of these kinds is reported.  The
graph of accepted declarations holds them unchanged. -/
theorem ofTasks_accepts_valid (tasks : List Task) :
    (¬ (tasks.map Task.name).Nodup →
      ∃ task, FirstRepeated tasks task ∧ ofTasks tasks = .error (.duplicateTask task.name)) ∧
    ((tasks.map Task.name).Nodup → ¬ AllDeclared tasks →
      ∃ task need, FirstUndeclared tasks task need ∧
        ofTasks tasks = .error (.unknownPrerequisite task.name need)) ∧
    ((tasks.map Task.name).Nodup → AllDeclared tasks → HasCycle tasks →
      ∃ path, ofTasks tasks = .error (.cycle path)) ∧
    ((tasks.map Task.name).Nodup → AllDeclared tasks → ¬ HasCycle tasks →
      ∃ graph, ofTasks tasks = .ok graph ∧ graph.tasks = tasks ∧
        ∀ name task, graph.get? name = some task ↔ task ∈ tasks ∧ task.name = name) := by
  refine ⟨fun repeated => ?_, fun distinct undeclared => ?_, fun distinct declared cycle => ?_,
    fun distinct declared acyclic => ?_⟩
  · cases found : firstRepeated? [] (tasks.map Task.name) with
    | none => exact absurd (firstRepeated?_eq_none.mp found).1 repeated
    | some name =>
        obtain ⟨task, first, rfl⟩ := firstRepeated?_names found
        exact ⟨task, first, ofTasks_duplicate found⟩
  · have once := firstRepeated?_names_eq_none.mpr distinct
    cases found : firstUndeclared? tasks with
    | none => exact absurd (firstUndeclared?_eq_none.mp found) undeclared
    | some fault =>
        obtain ⟨task, first, named⟩ := firstUndeclared?_eq_some found
        exact ⟨task, fault.2, first, named ▸ ofTasks_undeclared once found⟩
  · have once := firstRepeated?_names_eq_none.mpr distinct
    have stuck : isOrderable tasks = false :=
      Bool.not_eq_true _ ▸ fun orderable => (isOrderable_iff distinct declared).mp orderable cycle
    exact ⟨_, ofTasks_cycle once (firstUndeclared?_eq_none.mpr declared) stuck⟩
  · have once := firstRepeated?_names_eq_none.mpr distinct
    have accepted := ofTasks_accepted once (firstUndeclared?_eq_none.mpr declared)
      ((isOrderable_iff distinct declared).mpr acyclic)
    exact ⟨_, accepted, rfl, fun _ _ => get?_eq_some_iff _⟩

/-- A repeated name beside an undeclared need and a task that needs itself. -/
def threeFaults : List Task :=
  [⟨"a", none, ["z"], []⟩, ⟨"b", none, ["b"], []⟩, ⟨"a", none, [], []⟩]

/-- An undeclared need behind a task that needs itself. -/
def twoFaults : List Task :=
  [⟨"a", none, ["a"], []⟩, ⟨"b", none, ["a", "y", "x"], []⟩]

def mutualNeeds : List Task :=
  [⟨"a", none, ["b"], []⟩, ⟨"b", none, ["c"], []⟩, ⟨"c", none, ["b"], []⟩]

def repeatedNeed : List Task :=
  [⟨"a", none, ["b", "b"], []⟩, ⟨"b", none, [], []⟩]

theorem ofTasks_sorts_faults :
    (∃ task, FirstRepeated threeFaults task ∧
      ofTasks threeFaults = .error (.duplicateTask task.name)) ∧
    (∃ task need, FirstUndeclared twoFaults task need ∧
      ofTasks twoFaults = .error (.unknownPrerequisite task.name need)) ∧
    (∃ path, ofTasks mutualNeeds = .error (.cycle path)) ∧
    ∃ graph, ofTasks repeatedNeed = .ok graph ∧ graph.tasks = repeatedNeed ∧
      ∀ name task, graph.get? name = some task ↔ task ∈ repeatedNeed ∧ task.name = name := by
  have cycle : HasCycle mutualNeeds :=
    ⟨⟨"b", none, ["c"], []⟩, by simp [mutualNeeds],
      .tail (.single ⟨⟨"b", none, ["c"], []⟩, by simp [mutualNeeds], rfl, by simp⟩)
        ⟨⟨"c", none, ["b"], []⟩, by simp [mutualNeeds], rfl, by simp⟩⟩
  have acyclic : ¬ HasCycle repeatedNeed :=
    (isOrderable_iff (by decide) (by unfold AllDeclared; decide)).mp (by decide)
  exact ⟨(ofTasks_accepts_valid threeFaults).1 (by decide),
    (ofTasks_accepts_valid twoFaults).2.1 (by decide) (by unfold AllDeclared; decide),
    (ofTasks_accepts_valid mutualNeeds).2.2.1 (by decide) (by unfold AllDeclared; decide) cycle,
    (ofTasks_accepts_valid repeatedNeed).2.2.2 (by decide) (by unfold AllDeclared; decide) acyclic⟩

end TaskGraph

end Groundwork
