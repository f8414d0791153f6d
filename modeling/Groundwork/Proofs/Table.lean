import Groundwork.Table

namespace Groundwork.Table

/-! What is found in a table, and tables that hold the same. -/

variable {α : Type u} {key : String} {value : α} {table : Table α}

theorem get?_of_absent (absent : ∀ entry ∈ table, entry.1 ≠ key) : get? key table = none := by
  induction table with
  | nil => rfl
  | cons entry rest ih =>
      have different : key ≠ entry.1 := (absent entry List.mem_cons_self).symm
      rw [get?, if_neg different]
      exact ih fun other member => absent other (List.mem_cons_of_mem _ member)

theorem get?_append_of_absent {before : Table α} (absent : get? key before = none)
    (after : Table α) : get? key (before ++ after) = get? key after := by
  induction before with
  | nil => rfl
  | cons entry rest ih =>
      rw [get?] at absent
      split at absent
      · contradiction
      · next different =>
          rw [List.cons_append, get?, if_neg different]
          exact ih absent

theorem mem_of_get? (present : get? key table = some value) : (key, value) ∈ table := by
  induction table with
  | nil => contradiction
  | cons entry rest ih =>
      rw [get?] at present
      split at present
      · next same =>
          cases same
          cases present
          exact List.mem_cons_self
      · exact List.mem_cons_of_mem _ (ih present)

theorem get?_of_mem (distinct : (keys table).Nodup) (member : (key, value) ∈ table) :
    get? key table = some value := by
  induction table with
  | nil => contradiction
  | cons entry rest ih =>
      obtain ⟨fresh, others⟩ := List.nodup_cons.mp distinct
      rcases List.mem_cons.mp member with rfl | later
      · rw [get?, if_pos rfl]
      · have different : key ≠ entry.1 := fun same => fresh (same ▸ List.mem_map_of_mem later)
        rw [get?, if_neg different]
        exact ih others later

theorem get?_tail (distinct : (keys ((key, value) :: table)).Nodup) : get? key table = none := by
  apply get?_of_absent
  intro entry member same
  have fresh : key ∉ keys table := (List.nodup_cons.mp distinct).1
  exact fresh (same ▸ List.mem_map_of_mem member)

theorem Sorted.distinct (sorted : table.Sorted) : (keys table).Nodup :=
  (List.pairwise_map.mpr sorted).imp fun before same => absurd (same ▸ before) Std.lt_irrefl

theorem Sorted.get?_tail (sorted : Sorted ((key, value) :: table)) : get? key table = none :=
  Table.get?_tail sorted.distinct

theorem Sorted.get?_of_mem (sorted : table.Sorted) (member : (key, value) ∈ table) :
    get? key table = some value :=
  Table.get?_of_mem sorted.distinct member

theorem insert_of_before (before : ∀ entry ∈ table, key < entry.1) :
    insert key value table = (key, value) :: table := by
  cases table with
  | nil => rfl
  | cons entry rest =>
      have less := before entry List.mem_cons_self
      have different : key ≠ entry.1 := fun same => absurd (same ▸ less) Std.lt_irrefl
      rw [insert, if_neg different, if_pos less]

theorem get?_filter (keep : String → Bool) (key : String) (table : Table α) :
    get? key (table.filter fun entry => keep entry.1) =
      if keep key then get? key table else none := by
  induction table with
  | nil => simp
  | cons entry rest ih =>
      obtain ⟨own, value⟩ := entry
      rw [List.filter_cons, get?]
      by_cases same : key = own
      · subst same
        cases kept : keep key with
        | true => simp [get?]
        | false =>
            rw [kept] at ih
            simpa [kept] using ih
      · cases keep own with
        | true => simp [get?, same, ih]
        | false => simp [same, ih]

theorem Sorted.filter_before {before after : Table α}
    (sorted : Sorted (before ++ (key, value) :: after)) :
    (before ++ (key, value) :: after).filter (fun entry => decide (entry.1 < key)) = before := by
  obtain ⟨_, tail, across⟩ := List.pairwise_append.mp sorted
  have smaller : before.filter (fun entry => decide (entry.1 < key)) = before :=
    List.filter_eq_self.mpr fun entry member =>
      decide_eq_true (across entry member _ List.mem_cons_self)
  have others : after.filter (fun entry => decide (entry.1 < key)) = [] := by
    rw [List.filter_eq_nil_iff]
    intro entry member small
    have behind := (List.pairwise_cons.mp tail).1 entry member
    exact Std.lt_irrefl (Std.lt_trans behind (of_decide_eq_true small))
  have own : ¬ decide (key < key) = true := fun small => Std.lt_irrefl (of_decide_eq_true small)
  rw [List.filter_append, smaller, List.filter_cons, if_neg own, others, List.append_nil]

theorem get?_merge (key : String) (table later : Table α) :
    get? key (merge table later) = (get? key (ofList later)).or (get? key table) := by
  induction later generalizing table with
  | nil => rfl
  | cons entry rest ih =>
      have first : ofList (entry :: rest) = merge [entry] rest := rfl
      rw [first, ih [entry]]
      change get? key (merge (insert entry.1 entry.2 table) rest) = _
      rw [ih, get?_insert]
      cases get? key (ofList rest) with
      | some value => rfl
      | none =>
          by_cases same : key = entry.1
          · simp [get?, same]
          · simp [get?, same]

theorem mem_merge {entry : String × α} {later : Table α} (member : entry ∈ merge table later) :
    entry ∈ later ∨ entry ∈ table := by
  induction later generalizing table with
  | nil => exact .inr member
  | cons first rest ih =>
      rcases ih member with found | found
      · exact .inl (List.mem_cons_of_mem _ found)
      · rcases mem_insert found with rfl | old
        · exact .inl List.mem_cons_self
        · exact .inr old

theorem get?_ofList_of_distinct (distinct : (keys table).Nodup) :
    get? key (ofList table) = get? key table := by
  induction table with
  | nil => rfl
  | cons entry rest ih =>
      obtain ⟨own, value⟩ := entry
      have first : ofList ((own, value) :: rest) = merge [(own, value)] rest := rfl
      rw [first, get?_merge, ih (List.nodup_cons.mp distinct).2]
      by_cases same : key = own
      · subst same
        simp [get?, get?_tail distinct]
      · simp [get?, same]

theorem get?_ofList (sorted : table.Sorted) : get? key (ofList table) = get? key table :=
  get?_ofList_of_distinct sorted.distinct

theorem Sorted.subset_of_get? {other : Table α} (sorted : table.Sorted)
    (same : ∀ key, get? key table = get? key other) : table ⊆ other := by
  intro entry member
  have found := sorted.get?_of_mem member
  rw [same] at found
  exact mem_of_get? found

theorem Sorted.ext {other : Table α} (sorted : table.Sorted) (otherSorted : other.Sorted)
    (same : ∀ key, get? key table = get? key other) : table = other := by
  induction table generalizing other with
  | nil =>
      have inside := otherSorted.subset_of_get? fun key => (same key).symm
      exact (List.eq_nil_of_subset_nil inside).symm
  | cons entry rest ih =>
      have here := sorted.subset_of_get? same
      have there := otherSorted.subset_of_get? fun key => (same key).symm
      obtain ⟨before, tail⟩ := List.pairwise_cons.mp sorted
      cases other with
      | nil => cases here List.mem_cons_self
      | cons first others =>
          obtain ⟨beforeOther, otherTail⟩ := List.pairwise_cons.mp otherSorted
          have heads : entry = first := by
            rcases List.mem_cons.mp (here List.mem_cons_self) with equal | later
            · exact equal
            rcases List.mem_cons.mp (there List.mem_cons_self) with equal | laterOther
            · exact equal.symm
            -- Each head would come before the other.
            exact absurd (Std.lt_trans (before _ laterOther) (beforeOther _ later)) Std.lt_irrefl
          subst heads
          obtain ⟨own, value⟩ := entry
          refine congrArg _ (ih tail otherTail fun key => ?_)
          by_cases equal : key = own
          · subst equal
            rw [sorted.get?_tail, otherSorted.get?_tail]
          · have found := same key
            rwa [get?, get?, if_neg equal, if_neg equal] at found

theorem Sorted.ofList_eq (sorted : table.Sorted) : ofList table = table :=
  (sorted_ofList table).ext sorted fun _ => get?_ofList sorted

/-- Merging one after the other is merging once with what both come to. -/
theorem merge_merge {first : Table α} (sorted : table.Sorted) (firstSorted : first.Sorted)
    (second : Table α) : merge (merge table first) second = merge table (merge first second) := by
  refine ((sorted.merge first).merge second).ext (sorted.merge _) fun key => ?_
  simp only [get?_merge, get?_ofList firstSorted, get?_ofList (firstSorted.merge second),
    Option.or_assoc]

theorem merge_self (sorted : table.Sorted) : merge table table = table := by
  refine (sorted.merge table).ext sorted fun key => ?_
  rw [get?_merge, get?_ofList sorted, Option.or_self]

end Groundwork.Table
