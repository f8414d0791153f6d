import Groundwork.Proofs.Table
import Groundwork.Proofs.Vars.Expansion

namespace Groundwork

/-! What laying defaults under variables leaves.

A variable that is set keeps its value, so the variables only grow while the defaults are gone through.
A default is expanded by the variables there are at its turn; what it refers to may be set later.
-/

namespace Vars

theorem get?_set (vars : Vars) (key other value : String) :
    (vars.set key value).get? other = if other = key then some value else vars.get? other :=
  Table.get?_insert key other value vars.entries

theorem get?_setAll_of_unset {key : String} {entries : List (String × String)}
    (unset : Table.get? key entries = none) (vars : Vars) :
    (vars.setAll entries).get? key = vars.get? key := by
  induction entries generalizing vars with
  | nil => rfl
  | cons entry rest ih =>
      rw [Table.get?] at unset
      split at unset
      · contradiction
      · next different => exact (ih unset _).trans (by rw [get?_set, if_neg different])

theorem get?_setAll {entries : Table String} (sorted : entries.Sorted) (vars : Vars) (key : String) :
    (vars.setAll entries).get? key = (Table.get? key entries).or (vars.get? key) := by
  induction entries generalizing vars with
  | nil => rfl
  | cons entry rest ih =>
      obtain ⟨other, value⟩ := entry
      have tail : Table.Sorted rest := (List.pairwise_cons.mp sorted).2
      change ((vars.set other value).setAll rest).get? key = _
      rw [ih tail, get?_set, Table.get?]
      split
      · next same => rw [same, sorted.get?_tail]; rfl
      · rfl

section

variable {given environment : Environment} {defaults rest : Table String} {vars final : Vars}
  {key text value : String}

theorem addDefaults_cons_ok
    (added : addDefaults given environment ((key, text) :: rest) vars = (final, none)) :
    (∃ value, vars.get? key = some value ∧
        addDefaults given environment rest vars = (final, none)) ∨
      (∃ value, vars.get? key = none ∧
        (given key = some value ∨ given key = none ∧ vars.expand environment text = .ok value) ∧
        addDefaults given environment rest (vars.set key value) = (final, none)) := by
  rw [addDefaults, contains] at added
  cases present : vars.get? key with
  | some value =>
      rw [present] at added
      exact .inl ⟨value, rfl, added⟩
  | none =>
      rw [present] at added
      simp only [Option.isSome_none, Bool.false_eq_true, ↓reduceIte] at added
      cases handed : given key with
      | some value =>
          rw [handed] at added
          exact .inr ⟨value, rfl, .inl rfl, added⟩
      | none =>
          rw [handed] at added
          cases expanded : vars.expand environment text with
          | ok value =>
              rw [expanded] at added
              exact .inr ⟨value, rfl, .inr ⟨rfl, rfl⟩, added⟩
          | error failure =>
              rw [expanded] at added
              cases added

theorem get?_addDefaults_of_set
    (added : addDefaults given environment defaults vars = (final, none))
    (present : vars.get? key = some value) : final.get? key = some value := by
  induction defaults generalizing vars with
  | nil =>
      cases added
      exact present
  | cons entry rest ih =>
      obtain ⟨other, default⟩ := entry
      rcases addDefaults_cons_ok added with ⟨_, _, later⟩ | ⟨_, absent, _, later⟩
      · exact ih later present
      · refine ih later ?_
        have different : key ≠ other := fun same => by simp [same, absent] at present
        rw [get?_set, if_neg different, present]

theorem get?_addDefaults_of_no_default
    (added : addDefaults given environment defaults vars = (final, none))
    (noDefault : Table.get? key defaults = none) : final.get? key = vars.get? key := by
  induction defaults generalizing vars with
  | nil =>
      cases added
      rfl
  | cons entry rest ih =>
      obtain ⟨other, default⟩ := entry
      rw [Table.get?] at noDefault
      split at noDefault
      · contradiction
      · next different =>
          rcases addDefaults_cons_ok added with ⟨_, _, later⟩ | ⟨_, _, _, later⟩
          · exact ih later noDefault
          · rw [ih later noDefault, get?_set, if_neg different]

theorem get?_addDefaults_of_default
    (added : addDefaults given environment defaults vars = (final, none))
    (present : Table.get? key defaults = some text) : ∃ value, final.get? key = some value := by
  induction defaults generalizing vars with
  | nil => contradiction
  | cons entry rest ih =>
      obtain ⟨other, default⟩ := entry
      rw [Table.get?] at present
      split at present
      · next same =>
          subst same
          rcases addDefaults_cons_ok added with ⟨value, set, later⟩ | ⟨value, _, _, later⟩
          · exact ⟨value, get?_addDefaults_of_set later set⟩
          · exact ⟨value, get?_addDefaults_of_set later (by rw [get?_set, if_pos rfl])⟩
      · rcases addDefaults_cons_ok added with ⟨_, _, later⟩ | ⟨_, _, _, later⟩
        · exact ih later present
        · exact ih later present

theorem get?_addDefaults_of_given
    (added : addDefaults given environment defaults vars = (final, none))
    (present : Table.get? key defaults = some text) (unset : vars.get? key = none)
    (handed : given key = some value) : final.get? key = some value := by
  induction defaults generalizing vars with
  | nil => contradiction
  | cons entry rest ih =>
      obtain ⟨other, default⟩ := entry
      rw [Table.get?] at present
      split at present
      · next same =>
          subst same
          rcases addDefaults_cons_ok added with ⟨_, set, _⟩ | ⟨other, _, choice, later⟩
          · simp [unset] at set
          · have taken : other = value := by
              rcases choice with other | ⟨none, _⟩
              · exact Option.some.inj (other.symm.trans handed)
              · simp [handed] at none
            exact get?_addDefaults_of_set later (by rw [get?_set, if_pos rfl, taken])
      · next different =>
          rcases addDefaults_cons_ok added with ⟨_, _, later⟩ | ⟨_, _, _, later⟩
          · exact ih later present unset
          · exact ih later present (by rw [get?_set, if_neg different, unset])

theorem addDefaults_append (before : Table String) (vars : Vars) :
    addDefaults given environment (before ++ rest) vars =
      match addDefaults given environment before vars with
      | (between, none) => addDefaults given environment rest between
      | failed => failed := by
  induction before generalizing vars with
  | nil => rfl
  | cons entry before ih =>
      obtain ⟨key, text⟩ := entry
      rw [List.cons_append, addDefaults, addDefaults]
      split
      · exact ih vars
      · split
        · exact ih _
        · split
          · exact ih _
          · rfl

theorem addDefaults_append_ok {before : Table String}
    (added : addDefaults given environment (before ++ rest) vars = (final, none)) :
    ∃ between, addDefaults given environment before vars = (between, none) ∧
      addDefaults given environment rest between = (final, none) := by
  rw [addDefaults_append] at added
  split at added
  · next between earlier => exact ⟨between, earlier, added⟩
  · next failed notOk => exact absurd added (notOk final)

end

/-- A default that is gone through no earlier than `key`, and that the environment sets to nothing.  A
reference to it in the default of `key` finds the empty text, whatever the variable is set to later. -/
structure IsPending (vars : Vars) (defaults : Table String) (environment : Environment)
    (key name : String) : Prop where
  unset : vars.get? name = none
  default : ∃ text, Table.get? name defaults = some text
  turn : ¬ name < key
  empty : environment name = some ""

section

variable {environment : Environment} {before after : Table String} {vars between final : Vars}
  {key text name : String}

theorem get?_before_of_turn (sorted : Table.Sorted (before ++ (key, text) :: after))
    (turn : ¬ name < key) : Table.get? name before = none := by
  apply Table.get?_of_absent
  intro entry member same
  have less := (List.pairwise_append.mp sorted).2.2 entry member (key, text) List.mem_cons_self
  exact turn (same ▸ less)

theorem turn_of_get? (sorted : Table.Sorted (before ++ (key, text) :: after))
    {default : String} (present : Table.get? name ((key, text) :: after) = some default) :
    ¬ name < key ∧ Table.get? name (before ++ (key, text) :: after) = some default := by
  have tail : Table.Sorted ((key, text) :: after) := (List.pairwise_append.mp sorted).2.1
  have member : (name, default) ∈ (key, text) :: after := Table.mem_of_get? present
  refine ⟨?_, sorted.get?_of_mem (List.mem_append_right _ member)⟩
  rcases List.mem_cons.mp member with same | later
  · cases same
    exact Std.lt_irrefl
  · have behind : key < name := (List.pairwise_cons.mp tail).1 _ later
    exact fun before => Std.lt_irrefl (Std.lt_trans before behind)

theorem get?_of_pending (sorted : Table.Sorted (before ++ (key, text) :: after))
    (earlier : addDefaults environment.nonempty environment before vars = (between, none))
    (pending : IsPending vars (before ++ (key, text) :: after) environment key name) :
    between.get? name = none :=
  (get?_addDefaults_of_no_default earlier (get?_before_of_turn sorted pending.turn)).trans
    pending.unset

/-- Of a reference that is known at the turn of a default, the value stays what it is unless the
reference is to a pending default. -/
theorem lookup_of_not_pending (sorted : Table.Sorted (before ++ (key, text) :: after))
    (earlier : addDefaults environment.nonempty environment before vars = (between, none))
    (later : addDefaults environment.nonempty environment ((key, text) :: after) between =
      (final, none))
    (known : between.lookup environment name ≠ none)
    (notPending : ¬ IsPending vars (before ++ (key, text) :: after) environment key name) :
    between.lookup environment name = final.lookup environment name := by
  cases present : between.get? name with
  | some value =>
      simp only [lookup, present, get?_addDefaults_of_set later present, Option.some_or]
  | none =>
      rw [lookup, present, Option.none_or] at known
      cases listed : Table.get? name ((key, text) :: after) with
      | none =>
          have unset := (get?_addDefaults_of_no_default later listed).trans present
          simp only [lookup, present, unset]
      | some default =>
          obtain ⟨value, set⟩ := Option.ne_none_iff_exists'.mp known
          obtain ⟨turn, whole⟩ := turn_of_get? sorted listed
          have unset : vars.get? name = none := by
            cases there : vars.get? name with
            | none => rfl
            | some other => simp [get?_addDefaults_of_set earlier there] at present
          -- A value of the environment that is not empty becomes the value of the variable.
          have nonempty : value.isEmpty = false := by
            cases empty : value.isEmpty with
            | false => rfl
            | true =>
                rw [String.isEmpty_iff.mp empty] at set
                exact absurd ⟨unset, ⟨default, whole⟩, turn, set⟩ notPending
          have handed : environment.nonempty name = some value := by
            simp [Environment.nonempty, set, nonempty]
          simp only [lookup, present, set, get?_addDefaults_of_given later listed present handed,
            Option.none_or, Option.some_or]

end

section

variable {α β : Type u} {items : List α} {first second : α → List β}

theorem length_flatMap_le (equalOrMissing : ∀ item ∈ items, first item = second item ∨ first item = []) :
    (items.flatMap first).length ≤ (items.flatMap second).length := by
  induction items with
  | nil => exact Nat.le_refl _
  | cons item rest ih =>
      obtain ⟨here, others⟩ := List.forall_mem_cons.mp equalOrMissing
      have later := ih others
      simp only [List.flatMap_cons, List.length_append]
      rcases here with same | missing
      · rw [same]
        omega
      · rw [missing, List.length_nil]
        omega

/-- Parts that are equal or missing make equal lists only where they are all equal. -/
theorem flatMap_eq_flatMap_iff
    (equalOrMissing : ∀ item ∈ items, first item = second item ∨ first item = []) :
    items.flatMap first = items.flatMap second ↔ ∀ item ∈ items, first item = second item := by
  induction items with
  | nil => simp
  | cons item rest ih =>
      obtain ⟨here, others⟩ := List.forall_mem_cons.mp equalOrMissing
      rw [List.flatMap_cons, List.flatMap_cons, List.forall_mem_cons, ← ih others]
      rcases here with same | missing
      · rw [same, List.append_cancel_left_eq]
        exact (and_iff_right rfl).symm
      · rw [missing, List.nil_append]
        constructor
        · intro whole
          have longer := length_flatMap_le others
          rw [whole, List.length_append] at longer
          have empty : second item = [] := List.eq_nil_of_length_eq_zero (by omega)
          rw [empty, List.nil_append] at whole
          exact ⟨empty.symm, whole⟩
        · rintro ⟨empty, same⟩
          rw [← empty, List.nil_append, same]

end

variable {environment : Environment} {before after : Table String} {vars between final : Vars}
  {key text value : String}

/-- The expansion of a default at its turn is its expansion by the final variables exactly when every
pending default that it refers to ends up empty. -/
theorem expand_at_turn_iff (sorted : Table.Sorted (before ++ (key, text) :: after))
    (earlier : addDefaults environment.nonempty environment before vars = (between, none))
    (later : addDefaults environment.nonempty environment ((key, text) :: after) between =
      (final, none))
    (expanded : between.expand environment text = .ok value) :
    ∃ whole, final.expand environment text = .ok whole ∧
      (value = whole ↔ ∀ name, Piece.reference name ∈ pieces text →
        IsPending vars (before ++ (key, text) :: after) environment key name →
        final.get? name = some "") := by
  obtain ⟨known, rfl⟩ := expand_eq_ok_iff.mp expanded
  have pendingEarly {name : String}
      (pending : IsPending vars (before ++ (key, text) :: after) environment key name) :
      between.lookup environment name = some "" := by
    rw [lookup, get?_of_pending sorted earlier pending, Option.none_or, pending.empty]
  have pendingLate {name : String}
      (pending : IsPending vars (before ++ (key, text) :: after) environment key name) :
      ∃ value, final.get? name = some value := by
    have unset := get?_of_pending sorted earlier pending
    obtain ⟨default, listed⟩ := pending.default
    rw [Table.get?_append_of_absent (get?_before_of_turn sorted pending.turn)] at listed
    exact get?_addDefaults_of_default later listed
  have defined : ∀ name, Piece.reference name ∈ pieces text →
      final.lookup environment name ≠ none := by
    intro name member
    by_cases pending : IsPending vars (before ++ (key, text) :: after) environment key name
    · obtain ⟨value, set⟩ := pendingLate pending
      simp [lookup, set]
    · rw [← lookup_of_not_pending sorted earlier later (known name member) pending]
      exact known name member
  refine ⟨_, expand_eq_ok_iff.mpr ⟨defined, rfl⟩, ?_⟩
  rw [String.ofList_inj, flatMap_eq_flatMap_iff]
  · constructor
    · intro same name member pending
      obtain ⟨value, set⟩ := pendingLate pending
      have parts := same _ member
      have late : final.lookup environment name = some value := by
        rw [lookup, set, Option.some_or]
      rw [Piece.expanded, Piece.expanded, pendingEarly pending, late] at parts
      have same : "" = value := String.toList_injective parts
      rw [set, same]
    · intro empty piece member
      cases piece with
      | letter letter => rfl
      | reference name =>
          by_cases pending : IsPending vars (before ++ (key, text) :: after) environment key name
          · have late : final.lookup environment name = some "" := by
              rw [lookup, empty name member pending, Option.some_or]
            rw [Piece.expanded, Piece.expanded, pendingEarly pending, late]
          · rw [Piece.expanded, Piece.expanded,
              lookup_of_not_pending sorted earlier later (known name member) pending]
  · intro piece member
    cases piece with
    | letter letter => exact .inl rfl
    | reference name =>
        by_cases pending : IsPending vars (before ++ (key, text) :: after) environment key name
        · exact .inr (by rw [Piece.expanded, pendingEarly pending]; rfl)
        · refine .inl ?_
          rw [Piece.expanded, Piece.expanded,
            lookup_of_not_pending sorted earlier later (known name member) pending]

end Vars

end Groundwork
