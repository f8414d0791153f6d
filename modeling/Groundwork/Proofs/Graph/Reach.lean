import Groundwork.Proofs.Graph.Needs

namespace Groundwork.Graph

/-! What the search for a cycle finds.

Names that wait are looked at one after another, and each name adds its needs once.  The needs of the
names that were not looked at yet pay for what still comes in, so that the search ends with nothing
waiting: then what it has seen is closed under needs, and it has seen nothing else.
-/

variable {tasks : List Task}

/-- The two names are reached from each other. -/
def Connected (tasks : List Task) (name other : String) : Prop :=
  Relation.TransGen (Needs tasks) name other ∧ Relation.TransGen (Needs tasks) other name

theorem Connected.symm {name other : String} (connected : Connected tasks name other) :
    Connected tasks other name :=
  ⟨connected.2, connected.1⟩

theorem Connected.trans {name between other : String} (first : Connected tasks name between)
    (second : Connected tasks between other) : Connected tasks name other :=
  ⟨first.1.trans second.1, second.2.trans first.2⟩

theorem connected_self {name : String} :
    Connected tasks name name ↔ Relation.TransGen (Needs tasks) name name :=
  ⟨And.left, fun cycle => ⟨cycle, cycle⟩⟩

theorem declared_of_transGen {name other : String}
    (reaches : Relation.TransGen (Needs tasks) name other) : name ∈ tasks.map Task.name := by
  obtain ⟨_, ⟨task, member, named, _⟩, _⟩ := Relation.TransGen.head'_iff.mp reaches
  exact List.mem_map.mpr ⟨task, member, named⟩

theorem needs_of_mem_needsOf {name need : String} (listed : need ∈ needsOf tasks name) :
    Needs tasks name need := by
  unfold needsOf at listed
  split at listed
  · next task found =>
      obtain ⟨member, named⟩ := find?_some found
      exact ⟨task, member, named, listed⟩
  · contradiction

theorem mem_needsOf (distinct : (tasks.map Task.name).Nodup) {name need : String} :
    need ∈ needsOf tasks name ↔ Needs tasks name need := by
  refine ⟨needs_of_mem_needsOf, ?_⟩
  rintro ⟨task, member, rfl, listed⟩
  rwa [needsOf, find?_of_mem distinct member]

/-- The needs of the tasks that were not looked at. -/
def unseenNeeds (tasks : List Task) (seen : List String) : Nat :=
  needCount (tasks.filter fun task => task.name ∉ seen)

theorem unseenNeeds_cons (task : Task) (rest : List Task) (seen : List String) :
    unseenNeeds (task :: rest) seen =
      (if task.name ∈ seen then 0 else task.needs.length) + unseenNeeds rest seen := by
  by_cases looked : task.name ∈ seen <;> simp [unseenNeeds, needCount, looked]

theorem unseenNeeds_cons_le (tasks : List Task) (name : String) (seen : List String) :
    unseenNeeds tasks (name :: seen) ≤ unseenNeeds tasks seen := by
  induction tasks with
  | nil => exact Nat.le_refl _
  | cons task rest ih =>
      rw [unseenNeeds_cons, unseenNeeds_cons]
      by_cases looked : task.name ∈ seen
      · rw [if_pos (List.mem_cons_of_mem _ looked), if_pos looked]
        omega
      · rw [if_neg looked]
        split <;> omega

theorem needsOf_cons (task : Task) (rest : List Task) (name : String) :
    needsOf (task :: rest) name = if task.name = name then task.needs else needsOf rest name := by
  by_cases same : task.name = name <;> simp [needsOf, find?, same]

/-- The needs of a name are no longer waited for when it has been looked at. -/
theorem needsOf_add_unseenNeeds_le (tasks : List Task) {name : String} {seen : List String}
    (fresh : name ∉ seen) :
    (needsOf tasks name).length + unseenNeeds tasks (name :: seen) ≤ unseenNeeds tasks seen := by
  induction tasks with
  | nil => exact Nat.le_refl _
  | cons task rest ih =>
      rw [needsOf_cons, unseenNeeds_cons, unseenNeeds_cons]
      by_cases same : task.name = name
      · have later := unseenNeeds_cons_le rest name seen
        rw [if_pos same, if_pos (by simp [same]), if_neg (by rwa [same])]
        omega
      · simp only [same, ↓reduceIte, List.mem_cons, false_or]
        omega

theorem unseenNeeds_nil (tasks : List Task) : unseenNeeds tasks [] = needCount tasks := by
  simp [unseenNeeds]

theorem length_needsOf_le (tasks : List Task) (name : String) :
    (needsOf tasks name).length ≤ needCount tasks := by
  have bound := needsOf_add_unseenNeeds_le tasks (List.not_mem_nil (a := name))
  rw [unseenNeeds_nil] at bound
  omega

theorem reached_of_mem_spread {fuel : Nat} {pending seen : List String} {other : String}
    (member : other ∈ spread tasks fuel pending seen) :
    other ∈ seen ∨ ∃ name ∈ pending, Relation.ReflTransGen (Needs tasks) name other := by
  induction fuel generalizing pending seen with
  | zero => exact .inl member
  | succ fuel ih =>
      cases pending with
      | nil => exact .inl member
      | cons name pending =>
          rw [spread] at member
          split at member
          · rcases ih member with old | ⟨start, waiting, reaches⟩
            · exact .inl old
            · exact .inr ⟨start, List.mem_cons_of_mem _ waiting, reaches⟩
          · rcases ih member with old | ⟨start, waiting, reaches⟩
            · rcases List.mem_cons.mp old with rfl | old
              · exact .inr ⟨other, List.mem_cons_self, .refl⟩
              · exact .inl old
            · rcases List.mem_append.mp waiting with needed | waiting
              · exact .inr ⟨name, List.mem_cons_self, reaches.head (needs_of_mem_needsOf needed)⟩
              · exact .inr ⟨start, List.mem_cons_of_mem _ waiting, reaches⟩

/-- What a search has seen at its end: all that it had seen or that waited, and all their needs. -/
structure Spread (tasks : List Task) (pending seen found : List String) : Prop where
  seen : seen ⊆ found
  pending : pending ⊆ found
  closed : ∀ name ∈ found, ∀ need ∈ needsOf tasks name, need ∈ found

theorem Spread.ended {seen : List String}
    (known : ∀ name ∈ seen, ∀ need ∈ needsOf tasks name, need ∈ seen ∨ need ∈ []) :
    Spread tasks [] seen seen :=
  ⟨List.Subset.refl _, List.nil_subset _, fun name member need needed =>
    (known name member need needed).resolve_right List.not_mem_nil⟩

theorem spread_spreads {fuel : Nat} {pending seen : List String}
    (enough : pending.length + unseenNeeds tasks seen ≤ fuel)
    (known : ∀ name ∈ seen, ∀ need ∈ needsOf tasks name, need ∈ seen ∨ need ∈ pending) :
    Spread tasks pending seen (spread tasks fuel pending seen) := by
  induction fuel generalizing pending seen with
  | zero =>
      have none : pending = [] := List.length_eq_zero_iff.mp (by omega)
      subst none
      exact .ended known
  | succ fuel ih =>
      cases pending with
      | nil => exact .ended known
      | cons name pending =>
          rw [List.length_cons] at enough
          rw [spread]
          split
          · next old =>
              have later : Spread tasks pending seen _ := ih (by omega)
                (fun other member need needed => by
                  rcases known other member need needed with inside | waiting
                  · exact .inl inside
                  · rcases List.mem_cons.mp waiting with rfl | waiting
                    · exact .inl old
                    · exact .inr waiting)
              exact ⟨later.seen, List.cons_subset.mpr ⟨later.seen old, later.pending⟩, later.closed⟩
          · next fresh =>
              have paid := needsOf_add_unseenNeeds_le tasks fresh
              have later : Spread tasks (needsOf tasks name ++ pending) (name :: seen) _ :=
                ih (by rw [List.length_append]; omega)
                (fun other member need needed => by
                  rcases List.mem_cons.mp member with rfl | member
                  · exact .inr (List.mem_append_left _ needed)
                  · rcases known other member need needed with inside | waiting
                    · exact .inl (List.mem_cons_of_mem _ inside)
                    · rcases List.mem_cons.mp waiting with rfl | waiting
                      · exact .inl List.mem_cons_self
                      · exact .inr (List.mem_append_right _ waiting))
              obtain ⟨inside, outside⟩ := List.cons_subset.mp later.seen
              exact ⟨outside, List.cons_subset.mpr ⟨inside, (List.append_subset.mp later.pending).2⟩,
                later.closed⟩

theorem mem_reached (distinct : (tasks.map Task.name).Nodup) {name other : String} :
    other ∈ reached tasks name ↔ Relation.TransGen (Needs tasks) name other := by
  constructor
  · intro member
    obtain ⟨need, needed, reaches⟩ :=
      (reached_of_mem_spread member).resolve_left List.not_mem_nil
    exact .head' (needs_of_mem_needsOf needed) reaches
  · intro reaches
    have bound := length_needsOf_le tasks name
    have spreads : Spread tasks (needsOf tasks name) [] (reached tasks name) :=
      spread_spreads (by rw [unseenNeeds_nil]; omega) (by simp)
    induction reaches with
    | single needed => exact spreads.pending ((mem_needsOf distinct).mpr needed)
    | tail _ needed ih => exact spreads.closed _ ih _ ((mem_needsOf distinct).mpr needed)

theorem isOnCycle_iff (distinct : (tasks.map Task.name).Nodup) {name : String} :
    isOnCycle tasks name = true ↔ Relation.TransGen (Needs tasks) name name := by
  rw [isOnCycle, List.contains_iff_mem, mem_reached distinct]

theorem mem_component (distinct : (tasks.map Task.name).Nodup) {name other : String} :
    other ∈ component tasks name ↔ Connected tasks name other := by
  simp only [component, List.mem_filter, Bool.and_eq_true, List.contains_iff_mem,
    mem_reached distinct]
  exact ⟨And.right, fun connected => ⟨declared_of_transGen connected.2, connected⟩⟩

theorem component_nodup (distinct : (tasks.map Task.name).Nodup) (name : String) :
    (component tasks name).Nodup :=
  distinct.filter _

/-- Where something is reached back, it is reached back through a need that is reached back. -/
theorem Connected.exists_need {name other : String} (connected : Connected tasks name other) :
    ∃ need, Needs tasks other need ∧ Connected tasks name need := by
  obtain ⟨need, needed, back⟩ := Relation.TransGen.head'_iff.mp connected.2
  refine ⟨need, needed, connected.1.tail needed, ?_⟩
  rcases Relation.reflTransGen_iff_eq_or_transGen.mp back with same | back
  · subst same
    exact connected.1.tail needed
  · exact back

end Groundwork.Graph
