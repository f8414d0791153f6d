import Mathlib.Data.List.Infix
import Mathlib.Data.List.Nodup
import Groundwork.Store.Basic

namespace Groundwork

/-- The same entry, or another directory in place of a directory. -/
inductive Entry.Alike : Entry → Entry → Prop
  | same (entry : Entry) : Alike entry entry
  | directory (mode other : Nat) : Alike (.directory mode) (.directory other)

namespace Store

/-! What is at each place of a store after a change of its entries. -/

variable {store : Store} {place other top source destination : Location} {entry : Entry}
  {entries : List (Location × Entry)}

theorem isWithin_iff : isWithin place top = true ↔ top <+: place :=
  List.isPrefixOf_iff_prefix

theorem find?_eq_none_iff : find? place entries = none ↔ ∀ present ∈ entries, present.1 ≠ place := by
  induction entries with
  | nil => simp [find?]
  | cons first rest ih =>
      obtain ⟨present, previous⟩ := first
      by_cases same : place = present
      · simp [find?, same]
      · simp [find?, same, ih, Ne.symm same]

theorem mem_of_find? (found : find? place entries = some entry) : (place, entry) ∈ entries := by
  induction entries with
  | nil => cases found
  | cons first rest ih =>
      obtain ⟨present, previous⟩ := first
      by_cases same : place = present
      · subst same
        have equal : previous = entry := by simpa [find?] using found
        exact equal ▸ List.mem_cons_self
      · exact List.mem_cons_of_mem _ (ih (by simpa [find?, same] using found))

theorem get?_of_ne_nil (inside : place ≠ []) : store.get? place = find? place store.entries := by
  simp [get?, inside]

theorem get?_root : store.get? [] = some (.directory directoryMode) := rfl

theorem ne_nil_of_get? (absent : store.get? place = none) : place ≠ [] := by
  rintro rfl
  cases absent

theorem exists_get?_of_mem {present : Location × Entry} (member : present ∈ store.entries) :
    ∃ entry, store.get? present.1 = some entry := by
  cases found : store.get? present.1 with
  | some entry => exact ⟨entry, rfl⟩
  | none =>
      rw [get?_of_ne_nil (ne_nil_of_get? found), find?_eq_none_iff] at found
      exact absurd rfl (found present member)

theorem mem_of_get? (inside : place ≠ []) (found : store.get? place = some entry) :
    (place, entry) ∈ store.entries :=
  mem_of_find? (get?_of_ne_nil inside ▸ found)

/-- Nothing is at the place or below it. -/
def Clear (store : Store) (top : Location) : Prop :=
  ∀ present ∈ store.entries, ¬ top <+: present.1

theorem clear_of_get? (absent : ∀ part, store.get? (top ++ part) = none) : Clear store top := by
  rintro present member ⟨part, split⟩
  obtain ⟨entry, found⟩ := exists_get?_of_mem member
  rw [← split, absent part] at found
  cases found

theorem Clear.get? (clear : Clear store top) (inside : top ≠ []) (part : Location) :
    store.get? (top ++ part) = none := by
  have below : top ++ part ≠ [] := fun empty => inside (List.append_eq_nil_iff.mp empty).1
  rw [get?_of_ne_nil below, find?_eq_none_iff]
  exact fun present member same => clear present member (same ▸ List.prefix_append top part)

theorem find?_filter (keep : Location → Bool) :
    find? place (entries.filter fun present => keep present.1) =
      if keep place then find? place entries else none := by
  induction entries with
  | nil => simp [find?]
  | cons first rest ih =>
      obtain ⟨present, previous⟩ := first
      by_cases same : place = present
      · subst same
        cases kept : keep place with
        | true => simp [kept, find?]
        | false => simpa [kept] using ih
      · cases kept : keep present with
        | true => simp [kept, find?, same, ih]
        | false => simp [kept, find?, same, ih]

theorem get?_dropTree (outside : ¬ top <+: place) :
    (store.dropTree top).get? place = store.get? place := by
  by_cases root : place = []
  · subst root
    rfl
  · have kept : isWithin place top = false :=
      Bool.eq_false_iff.mpr fun within => outside (isWithin_iff.mp within)
    rw [get?_of_ne_nil root, get?_of_ne_nil root, dropTree,
      find?_filter fun place => !isWithin place top]
    simp [kept]

theorem clear_dropTree : Clear (store.dropTree top) top := by
  intro present member
  have kept := (List.mem_filter.mp member).2
  simpa [← isWithin_iff] using kept

theorem dropTree_of_clear (clear : Clear store top) : store.dropTree top = store := by
  have all : store.entries.filter (fun present => !isWithin present.1 top) = store.entries := by
    refine List.filter_eq_self.mpr fun present member => ?_
    simpa [← isWithin_iff] using clear present member
  unfold dropTree
  rw [all]

theorem filter_putIn (keep : Location → Bool) (dropped : keep place = false) :
    (putIn place entry entries).filter (fun present => keep present.1) =
      entries.filter fun present => keep present.1 := by
  induction entries with
  | nil => simp [putIn, dropped]
  | cons first rest ih =>
      obtain ⟨present, previous⟩ := first
      unfold putIn
      split
      · next same =>
          subst same
          simp [dropped]
      · simp only [List.filter_cons, ih]

theorem dropTree_put (within : top <+: place) :
    (store.put place entry).dropTree top = store.dropTree top := by
  unfold dropTree put
  rw [filter_putIn fun place => !isWithin place top]
  simp [isWithin_iff.mpr within]

theorem find?_below {part : Location} (inside : part ≠ []) :
    find? part (store.below top) = store.get? (top ++ part) := by
  have below : top ++ part ≠ [] := fun empty => inside (List.append_eq_nil_iff.mp empty).2
  rw [get?_of_ne_nil below]
  unfold Store.below
  induction store.entries with
  | nil => rfl
  | cons first rest ih =>
      obtain ⟨present, previous⟩ := first
      rw [List.filterMap_cons]
      generalize List.filterMap _ rest = seen at ih ⊢
      by_cases within : top <+: present
      · obtain ⟨shown, rfl⟩ := within
        by_cases root : shown = []
        · subst root
          simp [find?, inside, ih]
        · simp [isWithin_iff.mpr (List.prefix_append top shown), find?, root, ih]
      · have different : top ++ part ≠ present := fun same => within (same ▸ List.prefix_append ..)
        have outside : isWithin present top = false :=
          Bool.eq_false_iff.mpr fun inside => within (isWithin_iff.mp inside)
        simp [outside, find?, different, ih]

theorem mem_below {part : Location} (member : (part, entry) ∈ store.below top) :
    part ≠ [] ∧ (top ++ part, entry) ∈ store.entries := by
  obtain ⟨⟨present, previous⟩, listed, shown⟩ := List.mem_filterMap.mp member
  simp only [Option.ite_none_right_eq_some, Bool.and_eq_true, bne_iff_ne, isWithin_iff,
    Option.some.injEq, Prod.mk.injEq] at shown
  obtain ⟨⟨⟨part, rfl⟩, proper⟩, rfl, rfl⟩ := shown
  simpa using And.intro proper listed

theorem nodup_below (distinct : (store.entries.map Prod.fst).Nodup) :
    ((store.below top).map Prod.fst).Nodup := by
  unfold Store.below
  rw [List.Nodup, List.pairwise_map] at distinct ⊢
  refine List.pairwise_filterMap.mpr (distinct.imp ?_)
  rintro ⟨place, entry⟩ ⟨other, present⟩ different seen shown seenOther shownOther same
  simp only [Option.ite_none_right_eq_some, Bool.and_eq_true, bne_iff_ne, isWithin_iff,
    Option.some.injEq] at shown shownOther
  obtain ⟨⟨⟨part, rfl⟩, -⟩, rfl⟩ := shown
  obtain ⟨⟨⟨partOther, rfl⟩, -⟩, rfl⟩ := shownOther
  simp only [List.drop_left] at same
  exact different (congrArg (top ++ ·) same)

variable {part : Location}

/-- A place gets the name that `moveTree` gives it. -/
def renamed (source destination place : Location) : Location :=
  if isWithin place source then destination ++ place.drop source.length else place

theorem moveTree_entries : (store.moveTree source destination).entries =
    store.entries.map fun present => (renamed source destination present.1, present.2) := by
  unfold moveTree renamed
  refine List.map_congr_left fun present _ => ?_
  obtain ⟨place, entry⟩ := present
  dsimp only
  split <;> rfl

theorem renamed_append : renamed source destination (source ++ part) = destination ++ part := by
  simp [renamed, isWithin_iff]

theorem renamed_of_outside (outside : ¬ source <+: place) :
    renamed source destination place = place := by
  simp [renamed, isWithin_iff, outside]

theorem renamed_inj (apart : ¬ destination <+: place) (apartOther : ¬ destination <+: other)
    (same : renamed source destination place = renamed source destination other) : place = other := by
  by_cases within : source <+: place
  · obtain ⟨part, rfl⟩ := within
    rw [renamed_append] at same
    by_cases withinOther : source <+: other
    · obtain ⟨partOther, rfl⟩ := withinOther
      rw [renamed_append] at same
      exact congrArg (source ++ ·) (List.append_cancel_left same)
    · rw [renamed_of_outside withinOther] at same
      exact absurd (same ▸ List.prefix_append ..) apartOther
  · rw [renamed_of_outside within] at same
    by_cases withinOther : source <+: other
    · obtain ⟨partOther, rfl⟩ := withinOther
      rw [renamed_append] at same
      exact absurd (same ▸ List.prefix_append ..) apart
    · rwa [renamed_of_outside withinOther] at same

/-- A place that no other is moved to holds what was at the place of that name. -/
theorem find?_moved {target : Location}
    (alone : ∀ present ∈ entries, renamed source destination present.1 = target ↔ present.1 = place) :
    find? target (entries.map fun present => (renamed source destination present.1, present.2)) =
      find? place entries := by
  induction entries with
  | nil => rfl
  | cons first rest ih =>
      have later := ih fun present member => alone present (List.mem_cons_of_mem _ member)
      have here := alone first List.mem_cons_self
      by_cases same : place = first.1
      · simp [find?, same, here.mpr same.symm]
      · have different : target ≠ renamed source destination first.1 :=
          fun moved => same (here.mp moved.symm).symm
        simp [find?, same, different, later]

theorem get?_moveTree (clear : Clear store destination) (inside : source ++ part ≠ [])
    (proper : destination ++ part ≠ []) :
    (store.moveTree source destination).get? (destination ++ part) = store.get? (source ++ part) := by
  rw [get?_of_ne_nil proper, get?_of_ne_nil inside, moveTree_entries]
  refine find?_moved fun present member => ?_
  by_cases within : source <+: present.1
  · obtain ⟨rest, same⟩ := within
    rw [← same, renamed_append, List.append_cancel_left_eq, List.append_cancel_left_eq]
  · rw [renamed_of_outside within]
    constructor
    · exact fun same => absurd (same ▸ List.prefix_append ..) (clear present member)
    · exact fun same => absurd (same ▸ List.prefix_append ..) within

theorem get?_moveTree_elsewhere (apart : ¬ destination <+: place) (outside : ¬ source <+: place) :
    (store.moveTree source destination).get? place = store.get? place := by
  by_cases root : place = []
  · subst root
    rfl
  · rw [get?_of_ne_nil root, get?_of_ne_nil root, moveTree_entries]
    refine find?_moved fun present _ => ?_
    by_cases within : source <+: present.1
    · obtain ⟨rest, same⟩ := within
      rw [← same, renamed_append]
      constructor
      · exact fun moved => absurd (moved ▸ List.prefix_append ..) apart
      · exact fun same => absurd (same ▸ List.prefix_append ..) outside
    · rw [renamed_of_outside within]

theorem get?_moveTree_source (apart : ¬ destination <+: place) (left : source <+: place)
    (inside : place ≠ []) : (store.moveTree source destination).get? place = none := by
  rw [get?_of_ne_nil inside, moveTree_entries, find?_eq_none_iff]
  rintro moved member rfl
  obtain ⟨present, -, rfl⟩ := List.mem_map.mp member
  by_cases within : source <+: present.1
  · obtain ⟨rest, same⟩ := within
    rw [← same, renamed_append] at apart
    exact apart (List.prefix_append ..)
  · rw [renamed_of_outside within] at left
    exact within left

def IsDirectoryAt (store : Store) (place : Location) : Prop :=
  (store.get? place).map Entry.isDirectory = some true

instance : Decidable (IsDirectoryAt store place) :=
  inferInstanceAs (Decidable (_ = _))

theorem isDirectoryAt_iff :
    IsDirectoryAt store place ↔ ∃ mode, store.get? place = some (.directory mode) := by
  unfold IsDirectoryAt
  cases store.get? place with
  | none => simp
  | some entry => cases entry <;> simp [Entry.isDirectory]

theorem isDirectoryAt_root : IsDirectoryAt store [] := rfl

/-- No place has two entries, and the root has none. -/
structure Keyed (store : Store) : Prop where
  distinct : (store.entries.map Prod.fst).Nodup
  inside : ∀ present ∈ store.entries, present.1 ≠ []

/-- Every entry lies in a directory, and relative paths start in one. -/
structure WellFormed (store : Store) : Prop extends Keyed store where
  rooted : ∀ present ∈ store.entries, IsDirectoryAt store present.1.dropLast
  current : IsDirectoryAt store store.current

instance : Decidable (WellFormed store) :=
  decidable_of_iff
    (((store.entries.map Prod.fst).Nodup ∧ ∀ present ∈ store.entries, present.1 ≠ []) ∧
      (∀ present ∈ store.entries, IsDirectoryAt store present.1.dropLast) ∧
      IsDirectoryAt store store.current)
    ⟨fun ⟨keyed, rooted, current⟩ => ⟨⟨keyed.1, keyed.2⟩, rooted, current⟩,
      fun formed => ⟨⟨formed.distinct, formed.inside⟩, formed.rooted, formed.current⟩⟩

theorem keys_putIn (place : Location) (entry : Entry) (entries : List (Location × Entry)) :
    (putIn place entry entries).map Prod.fst =
      if place ∈ entries.map Prod.fst then entries.map Prod.fst
      else entries.map Prod.fst ++ [place] := by
  induction entries with
  | nil => simp [putIn]
  | cons first rest ih =>
      obtain ⟨present, previous⟩ := first
      by_cases same : place = present
      · simp [putIn, same]
      · simp only [putIn, same, ↓reduceIte, List.map_cons, ih, List.mem_cons, false_or]
        split <;> rfl

namespace Keyed

variable (keyed : Keyed store)
include keyed

theorem put (inside : place ≠ []) : Keyed (store.put place entry) := by
  have keys := keys_putIn place entry store.entries
  constructor
  · rw [Store.put, keys]
    split
    · exact keyed.distinct
    · next new =>
        rw [List.nodup_append]
        exact ⟨keyed.distinct, by simp, fun other old _ last same => new (by simp_all)⟩
  · intro present member
    have listed := List.mem_map_of_mem (f := Prod.fst) member
    rw [Store.put, keys] at listed
    split at listed
    · obtain ⟨other, old, same⟩ := List.mem_map.mp listed
      exact same ▸ keyed.inside other old
    · rcases List.mem_append.mp listed with old | new
      · obtain ⟨other, old, same⟩ := List.mem_map.mp old
        exact same ▸ keyed.inside other old
      · rw [List.mem_singleton.mp new]
        exact inside

theorem dropTree : Keyed (store.dropTree top) :=
  ⟨keyed.distinct.sublist (List.filter_sublist.map _),
    fun present member => keyed.inside present (List.mem_filter.mp member).1⟩

theorem moveTree (clear : Clear store destination) (inside : destination ≠ []) :
    Keyed (store.moveTree source destination) := by
  constructor
  · rw [moveTree_entries, List.map_map]
    have renames : (store.entries.map (Prod.fst ∘ fun present =>
        (renamed source destination present.1, present.2))) =
          (store.entries.map Prod.fst).map (renamed source destination) := by
      rw [List.map_map]
      rfl
    rw [renames]
    refine keyed.distinct.map_on ?_
    intro first firstListed second secondListed same
    obtain ⟨firstEntry, firstMember, rfl⟩ := List.mem_map.mp firstListed
    obtain ⟨secondEntry, secondMember, rfl⟩ := List.mem_map.mp secondListed
    exact renamed_inj (clear _ firstMember) (clear _ secondMember) same
  · intro moved member
    rw [moveTree_entries] at member
    obtain ⟨present, listed, rfl⟩ := List.mem_map.mp member
    by_cases within : source <+: present.1
    · obtain ⟨part, same⟩ := within
      simp [← same, renamed_append, inside]
    · rw [renamed_of_outside within]
      exact keyed.inside present listed

end Keyed

namespace WellFormed

variable (formed : WellFormed store)
include formed

theorem parent {name : String} (found : store.get? (place ++ [name]) = some entry) :
    IsDirectoryAt store place := by
  have rooted := formed.rooted _ (mem_of_get? (by simp) found)
  rwa [List.dropLast_concat] at rooted

theorem directory_above (proper : part ≠ []) (found : store.get? (place ++ part) = some entry) :
    IsDirectoryAt store place := by
  induction part generalizing place with
  | nil => exact absurd rfl proper
  | cons name rest ih =>
      rw [List.append_cons] at found
      cases rest with
      | nil => exact formed.parent (by simpa using found)
      | cons next rest =>
          obtain ⟨mode, directory⟩ := isDirectoryAt_iff.mp (ih (by simp) found)
          exact formed.parent directory

theorem dropLast (directory : IsDirectoryAt store place) : IsDirectoryAt store place.dropLast := by
  rcases List.eq_nil_or_concat' place with rfl | ⟨start, name, rfl⟩
  · exact directory
  · obtain ⟨mode, found⟩ := isDirectoryAt_iff.mp directory
    rw [List.dropLast_concat]
    exact formed.parent found

theorem clear (absent : store.get? place = none) : Clear store place := by
  refine clear_of_get? fun part => ?_
  by_cases here : part = []
  · rwa [here, List.append_nil]
  · cases found : store.get? (place ++ part) with
    | none => rfl
    | some entry =>
        obtain ⟨mode, directory⟩ := isDirectoryAt_iff.mp (formed.directory_above here found)
        rw [absent] at directory
        cases directory

theorem below_eq_none (file : ¬ IsDirectoryAt store place) (proper : part ≠ []) :
    store.get? (place ++ part) = none := by
  cases found : store.get? (place ++ part) with
  | none => rfl
  | some entry => exact absurd (formed.directory_above proper found) file

/-- Only a directory must not be overwritten, since something may lie in it. -/
theorem put (inside : place ≠ []) (free : IsDirectoryAt store place → entry.isDirectory = true)
    (parent : IsDirectoryAt store place.dropLast) : WellFormed (store.put place entry) := by
  have kept : ∀ other, IsDirectoryAt store other → IsDirectoryAt (store.put place entry) other := by
    intro other directory
    unfold IsDirectoryAt
    rw [get?_put store place other _ inside]
    split
    · next same => simp [free (same ▸ directory)]
    · exact directory
  refine ⟨formed.toKeyed.put inside, fun present member => ?_, kept _ formed.current⟩
  have listed := List.mem_map_of_mem (f := Prod.fst) member
  rw [Store.put, keys_putIn] at listed
  have keys : present.1 ∈ store.entries.map Prod.fst ∨ present.1 = place := by
    split at listed
    · exact .inl listed
    · simpa using listed
  rcases keys with old | new
  · obtain ⟨other, listed, same⟩ := List.mem_map.mp old
    exact same ▸ kept _ (formed.rooted other listed)
  · exact new ▸ kept _ parent

theorem put_directory {mode : Nat} (absent : store.get? place = none)
    (parent : IsDirectoryAt store place.dropLast) : WellFormed (store.put place (.directory mode)) :=
  formed.put (ne_nil_of_get? absent) (fun _ => rfl) parent

end WellFormed

/-- Every entry is still there, though directories may have other permissions. -/
structure Keeps (before after : Store) : Prop where
  current : after.current = before.current
  entry : ∀ place entry, before.get? place = some entry →
    ∃ other, after.get? place = some other ∧ entry.Alike other

theorem keeps_put (absent : store.get? place = none) : Keeps store (store.put place entry) := by
  refine ⟨rfl, fun other present found => ⟨present, ?_, .same present⟩⟩
  have different : other ≠ place := by
    rintro rfl
    rw [absent] at found
    cases found
  rw [get?_put store place other entry (ne_nil_of_get? absent), if_neg different, found]

/-- A place that held nothing, or an empty directory, has come to hold a tree. -/
structure Grafts (before after : Store) (place : Location) : Prop where
  keyed : Keyed after
  current : after.current = before.current
  inside : place ≠ []
  parent : IsDirectoryAt before place.dropLast
  free : before.get? place = none ∨ IsDirectoryAt before place
  empty : ∀ part ≠ [], before.get? (place ++ part) = none
  top : IsDirectoryAt after place
  closed : ∀ part name entry, after.get? (place ++ part ++ [name]) = some entry →
    IsDirectoryAt after (place ++ part)
  elsewhere : ∀ other, ¬ place <+: other → after.get? other = before.get? other

namespace Grafts

variable {before after : Store} (grafts : Grafts before after place)
include grafts

theorem keeps : Keeps before after := by
  refine ⟨grafts.current, fun other entry found => ?_⟩
  by_cases within : place <+: other
  · obtain ⟨part, rfl⟩ := within
    by_cases here : part = []
    · subst here
      rw [List.append_nil] at found ⊢
      obtain ⟨mode, top⟩ := isDirectoryAt_iff.mp grafts.top
      rcases grafts.free with absent | directory
      · rw [absent] at found
        cases found
      · obtain ⟨old, present⟩ := isDirectoryAt_iff.mp directory
        cases present.symm.trans found
        exact ⟨_, top, .directory old mode⟩
    · rw [grafts.empty part here] at found
      cases found
  · exact ⟨entry, (grafts.elsewhere other within).trans found, .same entry⟩

theorem wellFormed (formed : WellFormed before) : WellFormed after := by
  have kept : ∀ other, IsDirectoryAt before other → IsDirectoryAt after other := by
    intro other directory
    obtain ⟨mode, found⟩ := isDirectoryAt_iff.mp directory
    obtain ⟨_, present, alike⟩ := grafts.keeps.entry _ _ found
    cases alike with
    | same => exact isDirectoryAt_iff.mpr ⟨mode, present⟩
    | directory _ other => exact isDirectoryAt_iff.mpr ⟨other, present⟩
  refine ⟨grafts.keyed, fun present member => ?_, ?_⟩
  · obtain ⟨entry, found⟩ := exists_get?_of_mem member
    rcases List.eq_nil_or_concat' present.1 with root | ⟨start, name, split⟩
    · exact absurd root (grafts.keyed.inside present member)
    rw [split] at found ⊢
    rw [List.dropLast_concat]
    by_cases within : place <+: start
    · obtain ⟨part, rfl⟩ := within
      exact grafts.closed part name entry found
    · by_cases top : place = start ++ [name]
      · have parent := grafts.parent
        rw [top, List.dropLast_concat] at parent
        exact kept start parent
      · have outside : ¬ place <+: start ++ [name] := by
          intro inside
          rcases List.prefix_concat_iff.mp inside with same | shorter
          · exact top same
          · exact within shorter
        rw [grafts.elsewhere _ outside] at found
        exact kept start (formed.parent found)
  · rw [grafts.current]
    exact kept _ formed.current

end Grafts

end Store

end Groundwork
