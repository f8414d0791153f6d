import Groundwork.Proofs.Staging.Traversal
import Groundwork.Proofs.Store.Directories

namespace Groundwork

/-! A walk through a tree that stays as it is.

Where the copy grows outside its template, no directory of the template is other when the walk comes to
it than it was before, and the walk is one pass over a list that is fixed from the start.
-/

namespace Store

variable {store : Store} {place directory top : Location} {name : String} {entry : Entry}

theorem below_put (outside : ¬ top <+: place) : (store.put place entry).below top = store.below top := by
  have hidden : isWithin place top = false :=
    Bool.eq_false_iff.mpr fun within => outside (isWithin_iff.mp within)
  unfold Store.below Store.put
  induction store.entries with
  | nil => simp [putIn, hidden]
  | cons first rest ih =>
      obtain ⟨present, previous⟩ := first
      unfold putIn
      split
      · next same =>
          subst same
          simp [hidden]
      · simp only [List.filterMap_cons, ih]

theorem children_put (outside : ¬ directory <+: place) :
    (store.put place entry).children directory = store.children directory := by
  unfold children
  rw [below_put outside]

theorem below_of_mem_children (member : (name, entry) ∈ store.children directory) :
    ([name], entry) ∈ store.below directory := by
  obtain ⟨⟨part, present⟩, listed, shown⟩ := List.mem_filterMap.mp member
  split at shown <;> cases shown
  next same =>
    cases same
    exact listed

theorem find?_of_mem {entries : List (Location × Entry)} (distinct : (entries.map Prod.fst).Nodup)
    (member : (place, entry) ∈ entries) : find? place entries = some entry := by
  induction entries with
  | nil => exact absurd member List.not_mem_nil
  | cons first rest ih =>
      obtain ⟨new, later⟩ := List.nodup_cons.mp distinct
      rcases List.mem_cons.mp member with rfl | inside
      · simp [find?]
      · have different : place ≠ first.1 := by
          rintro rfl
          exact new (List.mem_map.mpr ⟨_, inside, rfl⟩)
        rw [find?, if_neg different, ih later inside]

theorem get?_of_mem_below (keyed : Keyed store) {part : Location}
    (member : (part, entry) ∈ store.below top) : store.get? (top ++ part) = some entry := by
  rw [← find?_below (mem_below member).1]
  exact find?_of_mem (nodup_below keyed.distinct) member

theorem mem_below_iff (keyed : Keyed store) {part : Location} :
    (part, entry) ∈ store.below top ↔ part ≠ [] ∧ store.get? (top ++ part) = some entry := by
  constructor
  · exact fun member => ⟨(mem_below member).1, get?_of_mem_below keyed member⟩
  · rintro ⟨proper, found⟩
    exact mem_of_find? ((find?_below proper).trans found)

theorem mem_parts_iff (keyed : Keyed store) {part : Location} :
    part ∈ (store.below top).map Prod.fst ↔
      part ≠ [] ∧ ∃ entry, store.get? (top ++ part) = some entry := by
  simp only [List.mem_map, Prod.exists, exists_and_right, exists_eq_right, mem_below_iff keyed,
    exists_and_left]

theorem mem_children_iff (keyed : Keyed store) :
    (name, entry) ∈ store.children directory ↔ store.get? (directory ++ [name]) = some entry :=
  ⟨fun member => get?_of_mem_below keyed (below_of_mem_children member), mem_children⟩

theorem children_nodup (keyed : Keyed store) (directory : Location) :
    ((store.children directory).map Prod.fst).Nodup := by
  have distinct : ((store.below directory).map Prod.fst).Nodup := nodup_below keyed.distinct
  unfold children
  rw [List.Nodup, List.pairwise_map] at distinct ⊢
  refine List.pairwise_filterMap.mpr (distinct.imp ?_)
  rintro ⟨part, entry⟩ ⟨other, present⟩ different child shown otherChild otherShown same
  split at shown <;> cases shown
  split at otherShown <;> cases otherShown
  next held _ _ _ otherHeld =>
    rw [held, otherHeld] at different
    exact different (congrArg (fun name => [name]) same)

end Store

namespace Staging

open Store

/-- All that lies below a part of a tree, down to a depth, in the order of a walk. -/
def listing (store : Store) (top : Location) : Nat → Location → List (Location × Entry)
  | 0, _ => []
  | depth + 1, part =>
      (store.children (top ++ part)).flatMap fun child =>
        (part ++ [child.1], child.2) ::
          if child.2.isDirectory then listing store top depth (part ++ [child.1]) else []

variable {store : Store} {top part found : Location} {entry : Entry} {depth : Nat}

theorem mem_listing (formed : WellFormed store) :
    (found, entry) ∈ listing store top depth part ↔
      ∃ rest, rest ≠ [] ∧ rest.length ≤ depth ∧ found = part ++ rest ∧
        store.get? (top ++ found) = some entry := by
  induction depth generalizing part with
  | zero =>
      refine iff_of_false List.not_mem_nil ?_
      rintro ⟨rest, proper, short, _⟩
      exact proper (List.length_eq_zero_iff.mp (Nat.le_zero.mp short))
  | succ depth ih =>
      simp only [listing, List.mem_flatMap, List.mem_cons, Prod.exists, mem_children_iff formed.toKeyed]
      constructor
      · rintro ⟨name, child, present, same | below⟩
        · cases same
          exact ⟨[name], by simp, by simp, rfl, by rw [← List.append_assoc, present]⟩
        · split at below
          · obtain ⟨rest, proper, short, rfl, held⟩ := ih.mp below
            exact ⟨name :: rest, by simp, by simpa using short, by simp, held⟩
          · exact absurd below List.not_mem_nil
      · rintro ⟨rest, proper, short, rfl, held⟩
        obtain ⟨name, more, rfl⟩ := List.exists_cons_of_ne_nil proper
        by_cases last : more = []
        · subst last
          exact ⟨name, entry, by rw [List.append_assoc, held], .inl rfl⟩
        · -- What holds something is a directory.
          have above : store.get? (top ++ part ++ [name] ++ more) = some entry := by
            simpa using held
          obtain ⟨mode, directory⟩ := isDirectoryAt_iff.mp (formed.directory_above last above)
          refine ⟨name, _, directory, .inr ?_⟩
          rw [Entry.isDirectory, if_pos rfl]
          exact ih.mpr ⟨more, last, by simpa using short, by simp, held⟩

theorem listing_nodup (formed : WellFormed store) (top : Location) (depth : Nat) (part : Location) :
    ((listing store top depth part).map Prod.fst).Nodup := by
  induction depth generalizing part with
  | zero => exact .nil
  | succ depth ih =>
      rw [listing, List.map_flatMap, List.nodup_flatMap]
      have under : ∀ child : String × Entry, ∀ place ∈ ((part ++ [child.1], child.2) ::
          if child.2.isDirectory then listing store top depth (part ++ [child.1]) else []).map Prod.fst,
          part ++ [child.1] <+: place := by
        intro child place listed
        obtain ⟨⟨place, entry⟩, member, rfl⟩ := List.mem_map.mp listed
        rcases List.mem_cons.mp member with same | below
        · cases same
          exact List.prefix_rfl
        · split at below
          · obtain ⟨rest, _, _, rfl, _⟩ := (mem_listing formed).mp below
            exact List.prefix_append ..
          · exact absurd below List.not_mem_nil
      constructor
      · rintro child -
        rw [List.map_cons, List.nodup_cons]
        split
        · refine ⟨fun listed => ?_, ih _⟩
          obtain ⟨⟨place, entry⟩, member, same⟩ := List.mem_map.mp listed
          obtain ⟨rest, proper, _, rfl, _⟩ := (mem_listing formed).mp member
          exact proper (by simpa using same)
        · simp
      · refine (List.pairwise_map.mp (children_nodup formed.toKeyed (top ++ part))).imp ?_
        intro child other different place listed otherListed
        have first := under child place listed
        have second := under other place otherListed
        have same := (List.prefix_of_prefix_length_le first second (by simp)).eq_of_length (by simp)
        exact different (List.singleton_inj.mp (List.append_cancel_left same))

theorem mem_listing_of_bounded (formed : WellFormed store) {bound : Nat}
    (bounded : ∀ present ∈ listing store top (bound + 1) [], present.1.length ≤ bound)
    (proper : part ≠ []) (held : store.get? (top ++ part) = some entry) :
    (part, entry) ∈ listing store top (bound + 1) [] := by
  by_cases short : part.length ≤ bound + 1
  · exact (mem_listing formed).mpr ⟨part, proper, short, rfl, held⟩
  · -- Its ancestor at the depth of the listing would be listed, too deep.
    have above : store.get? (top ++ part.take (bound + 1) ++ part.drop (bound + 1)) = some entry := by
      rwa [List.append_assoc, List.take_append_drop]
    have behind : part.drop (bound + 1) ≠ [] := by
      rw [Ne, List.drop_eq_nil_iff]
      omega
    obtain ⟨mode, directory⟩ := isDirectoryAt_iff.mp (formed.directory_above behind above)
    have size : (part.take (bound + 1)).length = bound + 1 := List.length_take_of_le (by omega)
    have listed : (part.take (bound + 1), _) ∈ listing store top (bound + 1) [] :=
      (mem_listing formed).mpr
        ⟨_, List.ne_nil_of_length_pos (by omega), size.le, rfl, directory⟩
    have shorter := bounded _ listed
    dsimp only at shorter
    omega

namespace Copying

variable (copying : Copying) {growth : Growth} {entries : List (Location × Entry)}

def visitAll (entries : List (Location × Entry)) : Act Growth Unit :=
  entries.forM fun present => copying.visit present.1 present.2

theorem visitAll_append (entries more : List (Location × Entry)) :
    copying.visitAll (entries ++ more) =
      (copying.visitAll entries).andThen fun _ => copying.visitAll more := by
  unfold visitAll
  rw [List.forM_eq_forM, List.forM_append]
  rfl

/-- The directories of the template hold what they held before the copy began. -/
def Unchanged (store : Store) : Prop :=
  ∀ part, store.children (copying.origin ++ part) = copying.before.children (copying.origin ++ part)

/-- The walk goes through the listing of the template as it was. -/
theorem walk_eq_visitAll (outlasts : copying.Outlasts copying.Unchanged) (depth : Nat) (part : Location)
    (unchanged : copying.Unchanged growth.store) :
    copying.walk depth part growth =
      copying.visitAll (listing copying.before copying.origin depth part) growth := by
  induction depth generalizing part growth with
  | zero => rfl
  | succ depth ih =>
      rw [walk_succ, unchanged part, listing]
      generalize copying.before.children (copying.origin ++ part) = children
      induction children generalizing growth with
      | nil => rfl
      | cons child rest later =>
          have below : copying.pass depth part child growth = copying.visitAll
              ((part ++ [child.1], child.2) :: if child.2.isDirectory then
                listing copying.before copying.origin depth (part ++ [child.1]) else []) growth := by
            refine Act.andThen_congr rfl fun _ => ?_
            have between : copying.Unchanged
                (copying.visit (part ++ [child.1]) child.2 growth).state.store :=
              (copying.visit_maintains outlasts (by simp) growth).leads unchanged
            split
            · exact ih _ between
            · rfl
          have passes := copying.pass_maintains outlasts (copying.walk_maintains outlasts depth) part child
          have between := (passes growth).leads unchanged
          rw [List.flatMap_cons, visitAll_append]
          exact Act.andThen_congr below fun _ => later between

theorem visit_of_absent {part : Location} {entry : Entry}
    (absent : growth.store.get? (copying.growing ++ part) = none) :
    (∃ copy, copied copying.before copying.source part entry = .ok copy ∧ copying.Takes part entry ∧
      copying.visit part entry growth =
        ⟨.ok (), ⟨growth.store.put (copying.growing ++ part) copy, growth.visited ++ [part]⟩, []⟩) ∨
    (¬ copying.Takes part entry ∧ ∃ failure, (copying.visit part entry growth).value = .error failure) := by
  by_cases takes : copying.Takes part entry
  · obtain ⟨copy, made⟩ := takes.copied
    have done := copying.copyPart_eq_ok_iff.mpr
      ⟨takes.source, takes.target, copy, made, settle_of_absent absent⟩
    exact .inl ⟨copy, made, takes, by rw [visit, done]⟩
  · rcases copying.visit_cases part entry growth with ⟨failure, failed⟩ | ⟨after, done, _⟩
    · exact .inr ⟨takes, failure, by rw [failed]⟩
    · obtain ⟨source, target, copy, made, _⟩ := copying.copyPart_eq_ok_iff.mp done
      exact absurd ⟨source, target, copy, made⟩ takes

/-- Nothing is where the copies of the entries are to be. -/
def Fresh (entries : List (Location × Entry)) (store : Store) : Prop :=
  ∀ present ∈ entries, store.get? (copying.growing ++ present.1) = none

theorem Fresh.rest {own : Location} {entry copy : Entry} {store : Store} (inside : copying.growing ≠ [])
    (distinct : (((own, entry) :: entries).map Prod.fst).Nodup)
    (fresh : copying.Fresh ((own, entry) :: entries) store) :
    copying.Fresh entries (store.put (copying.growing ++ own) copy) := by
  intro present member
  have different : present.1 ≠ own := by
    rintro rfl
    exact (List.nodup_cons.mp distinct).1 (List.mem_map.mpr ⟨present, member, rfl⟩)
  rw [get?_put _ _ _ _ (by simp [inside]), if_neg (by simpa using different)]
  exact fresh present (List.mem_cons_of_mem _ member)

/-- What a list of parts leaves that could be copied: each was visited once, in order, and its copy is
in its place, and nothing else has changed. -/
structure Visited (entries : List (Location × Entry)) (before after : Growth) : Prop where
  visited : after.visited = before.visited ++ entries.map Prod.fst
  copies : ∀ present ∈ entries, ∃ copy,
    copied copying.before copying.source present.1 present.2 = .ok copy ∧
      after.store.get? (copying.growing ++ present.1) = some copy
  others : ∀ place, (∀ present ∈ entries, place ≠ copying.growing ++ present.1) →
    after.store.get? place = before.store.get? place

theorem Visited.cons {own : Location} {entry copy : Entry} {after : Growth}
    (inside : copying.growing ≠ []) (distinct : (((own, entry) :: entries).map Prod.fst).Nodup)
    (made : copied copying.before copying.source own entry = .ok copy)
    (visited : copying.Visited entries
      ⟨growth.store.put (copying.growing ++ own) copy, growth.visited ++ [own]⟩ after) :
    copying.Visited ((own, entry) :: entries) growth after := by
  have proper : copying.growing ++ own ≠ [] := by simp [inside]
  refine ⟨?_, ?_, ?_⟩
  · rw [visited.visited, List.map_cons, List.append_assoc, List.singleton_append]
  · rintro present (_ | ⟨_, member⟩)
    · refine ⟨copy, made, ?_⟩
      rw [visited.others, get?_put_self _ _ _ proper]
      intro present member same
      exact (List.nodup_cons.mp distinct).1
        (List.mem_map.mpr ⟨present, member, (List.append_cancel_left same).symm⟩)
    · exact visited.copies present member
  · intro place apart
    rw [List.forall_mem_cons] at apart
    rw [visited.others place apart.2, get?_put _ _ _ _ proper, if_neg apart.1]

theorem visitAll_cases (inside : copying.growing ≠ []) (distinct : (entries.map Prod.fst).Nodup)
    (fresh : copying.Fresh entries growth.store) :
    ((∀ present ∈ entries, copying.Takes present.1 present.2) ∧
      (copying.visitAll entries growth).value = .ok () ∧
      copying.Visited entries growth (copying.visitAll entries growth).state) ∨
    (¬ ∀ present ∈ entries, copying.Takes present.1 present.2) ∧
      ∃ failure, (copying.visitAll entries growth).value = .error failure := by
  induction entries generalizing growth with
  | nil => exact .inl ⟨by simp, rfl, ⟨by simp [visitAll, pure, Act.done], by simp, fun _ _ => rfl⟩⟩
  | cons first rest ih =>
      obtain ⟨own, entry⟩ := first
      have split : copying.visitAll ((own, entry) :: rest) growth =
        (copying.visit own entry).andThen (fun _ => copying.visitAll rest) growth := rfl
      have later := (List.nodup_cons.mp distinct).2
      rw [split, Act.andThen, List.forall_mem_cons]
      rcases copying.visit_of_absent (fresh _ List.mem_cons_self) with
        ⟨copy, made, takes, visited⟩ | ⟨refused, failure, failed⟩
      · rw [visited]
        have vacant : copying.Fresh rest (Growth.mk (growth.store.put (copying.growing ++ own) copy)
            (growth.visited ++ [own])).store := fresh.rest copying inside distinct
        rcases ih later vacant with
          ⟨all, done, passed⟩ | ⟨some, failure, failed⟩
        · exact .inl ⟨⟨takes, all⟩, done, passed.cons copying inside distinct made⟩
        · exact .inr ⟨fun all => some all.2, failure, failed⟩
      · rw [failed]
        exact .inr ⟨fun all => refused all.1, failure, rfl⟩

end Copying

end Staging

end Groundwork
