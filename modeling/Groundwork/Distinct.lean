namespace Groundwork

/-! Lists with repetitions left out. -/

variable {α : Type u} [DecidableEq α]

def keepFirst : List α → List α
  | [] => []
  | element :: rest => element :: (keepFirst rest).filter (· ≠ element)

/-- The first element that has occurred before; `seen` holds the earlier ones. -/
def firstRepeated? : List α → List α → Option α
  | _, [] => none
  | seen, element :: rest =>
      if element ∈ seen then some element else firstRepeated? (element :: seen) rest

theorem mem_keepFirst {element : α} {elements : List α} :
    element ∈ keepFirst elements ↔ element ∈ elements := by
  induction elements with
  | nil => simp [keepFirst]
  | cons head rest ih =>
      simp only [keepFirst, List.mem_cons, List.mem_filter, ih, decide_eq_true_eq]
      by_cases same : element = head <;> simp [same]

theorem nodup_keepFirst (elements : List α) : (keepFirst elements).Nodup := by
  induction elements with
  | nil => simp [keepFirst]
  | cons head rest ih =>
      simp only [keepFirst, List.nodup_cons, List.mem_filter, decide_eq_true_eq]
      exact ⟨fun member => member.2 rfl, List.Pairwise.filter _ ih⟩

theorem keepFirst_append (earlier later : List α) :
    keepFirst (earlier ++ later) =
      keepFirst earlier ++ (keepFirst later).filter (· ∉ earlier) := by
  induction earlier with
  | nil => exact (List.filter_eq_self.2 (by simp)).symm
  | cons head rest ih =>
      simp only [List.cons_append, keepFirst, ih, List.filter_append, List.filter_filter,
        List.cons.injEq, List.append_cancel_left_eq, true_and]
      apply List.filter_congr
      intro element _
      simp [not_or]

theorem keepFirst_append_filter (earlier later : List α) :
    keepFirst (earlier ++ later) =
      keepFirst earlier ++ (keepFirst later).filter (· ∉ keepFirst earlier) := by
  simp only [keepFirst_append, mem_keepFirst]

/-- What has all occurred before adds nothing. -/
theorem keepFirst_append_of_subset {earlier later : List α}
    (covered : ∀ element ∈ later, element ∈ earlier) :
    keepFirst (earlier ++ later) = keepFirst earlier := by
  have nothing : (keepFirst later).filter (· ∉ earlier) = [] := by
    rw [List.filter_eq_nil_iff]
    intro element member
    simpa using covered element (mem_keepFirst.1 member)
  rw [keepFirst_append, nothing, List.append_nil]

theorem keepFirst_concat {element : α} {earlier : List α} (fresh : element ∉ earlier) :
    keepFirst (earlier ++ [element]) = keepFirst earlier ++ [element] := by
  rw [keepFirst_append]
  simp [keepFirst, fresh]

theorem firstRepeated?_eq_none {seen elements : List α} :
    firstRepeated? seen elements = none ↔
      elements.Nodup ∧ ∀ element ∈ elements, element ∉ seen := by
  induction elements generalizing seen with
  | nil => simp [firstRepeated?]
  | cons head rest ih =>
      by_cases repeated : head ∈ seen
      · simp [firstRepeated?, repeated]
      · simp only [firstRepeated?, repeated, ↓reduceIte, ih, List.nodup_cons, List.mem_cons,
          not_or, forall_eq_or_imp, not_false_eq_true, true_and]
        constructor
        · rintro ⟨distinct, unseen⟩
          exact ⟨⟨fun member => (unseen head member).1 rfl, distinct⟩,
            fun element member => (unseen element member).2⟩
        · rintro ⟨⟨fresh, distinct⟩, unseen⟩
          refine ⟨distinct, fun element member => ⟨?_, unseen element member⟩⟩
          rintro rfl
          exact fresh member

/-- The elements before the first repeated one differ from each other and from those seen. -/
theorem firstRepeated?_eq_some {seen elements : List α} {element : α}
    (found : firstRepeated? seen elements = some element) :
    ∃ before after, elements = before ++ element :: after ∧ before.Nodup ∧
      (∀ earlier ∈ before, earlier ∉ seen) ∧ (element ∈ seen ∨ element ∈ before) := by
  induction elements generalizing seen with
  | nil => simp [firstRepeated?] at found
  | cons head rest ih =>
      rw [firstRepeated?] at found
      split at found
      · next repeated =>
          cases found
          exact ⟨[], rest, rfl, List.nodup_nil, by simp, .inl repeated⟩
      · next fresh =>
          obtain ⟨before, after, rfl, distinct, unseen, again⟩ := ih found
          refine ⟨head :: before, after, rfl, ?_, ?_, ?_⟩
          · exact List.nodup_cons.2 ⟨fun member => unseen head member List.mem_cons_self, distinct⟩
          · intro earlier member
            rcases List.mem_cons.1 member with rfl | later
            · exact fresh
            · exact fun present => unseen earlier later (List.mem_cons_of_mem _ present)
          · rcases again with present | later
            · rcases List.mem_cons.1 present with rfl | present
              · exact .inr List.mem_cons_self
              · exact .inl present
            · exact .inr (List.mem_cons_of_mem _ later)

end Groundwork
