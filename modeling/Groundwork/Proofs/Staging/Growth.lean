import Mathlib.Data.List.Perm.Subperm
import Groundwork.Proofs.Staging.Listing

namespace Groundwork.Staging

open Store

/-! How a copy grows: under a name that is free, part by part. -/

variable {start store : Store} {source part : Location} {entry : Entry}

theorem toList_growingName (number : Nat) :
    ∃ count, (growingName number).toList =
      growingMark.toList ++ (List.replicate count '0' ++ Nat.toDigits 10 number) := by
  refine ⟨6 - (Nat.repr number).length, ?_⟩
  simp only [growingName, String.toList_append, String.toList_ofList, List.append_assoc, Nat.repr]

theorem growingName_injective : Function.Injective growingName := by
  intro number other same
  obtain ⟨count, letters⟩ := toList_growingName number
  obtain ⟨otherCount, otherLetters⟩ := toList_growingName other
  rw [same, otherLetters] at letters
  have digits := congrArg (Nat.ofDigitChars 10 · 0) (List.append_cancel_left letters)
  simp only [Nat.ofDigitChars_append, Nat.ofDigitChars_replicate_zero, Nat.mul_zero,
    Nat.ofDigitChars_ten_toDigits] at digits
  exact digits.symm

theorem isFree_iff {place : Location} : isFree store place = true ↔ Clear store place := by
  simp [isFree, Clear, ← isWithin_iff]

/-- Too few entries are there to take all the names tried. -/
theorem exists_free (store : Store) (directory : Location) :
    ∃ number, ((List.range (store.entries.length + 1)).find? fun number =>
      isFree store (directory ++ [growingName number])) = some number := by
  rw [← Option.ne_none_iff_exists']
  intro none
  rw [List.find?_range_eq_none] at none
  have taken : (List.range (store.entries.length + 1)).map growingName ⊆
      store.entries.filterMap fun present => present.1[directory.length]? := by
    intro name member
    obtain ⟨number, low, rfl⟩ := List.mem_map.mp member
    have occupied := none number (List.mem_range.mp low)
    simp only [isFree, Bool.not_not, List.any_eq_true] at occupied
    obtain ⟨present, listed, within⟩ := occupied
    obtain ⟨rest, whole⟩ := isWithin_iff.mp within
    refine List.mem_filterMap.mpr ⟨present, listed, ?_⟩
    simp [← whole]
  have distinct : ((List.range (store.entries.length + 1)).map growingName).Nodup :=
    List.nodup_range.map growingName_injective
  have many := (distinct.subperm taken).length_le.trans (List.length_filterMap_le ..)
  simp only [List.length_map, List.length_range] at many
  omega

theorem freeName_spec (store : Store) (directory : Location) :
    ∃ number, freeName store directory = growingName number ∧
      Clear store (directory ++ [growingName number]) := by
  obtain ⟨number, found⟩ := exists_free store directory
  have free := List.find?_some found
  refine ⟨number, ?_, isFree_iff.mp free⟩
  rw [freeName, found]
  rfl

/-- What the copy has at a part of the tree: directories stay directories, files keep their bytes and
permissions, and a link has become the file that it leads to. -/
inductive CopyOf (store : Store) (source part : Location) : Option Entry → Option Entry → Prop
  | nothing : CopyOf store source part none none
  | directory (mode : Nat) :
      CopyOf store source part (some (.directory mode)) (some (.directory directoryMode))
  | file (bytes : ByteArray) (mode : Nat) :
      CopyOf store source part (some (.file bytes mode)) (some (.file bytes mode))
  | link {target : String} {place : Location} {bytes : ByteArray} {mode : Nat}
      (led : store.follow true linkLimit source part = .ok (.taken place (.file bytes mode))) :
      CopyOf store source part (some (.link target)) (some (.file bytes mode))

theorem copyOf_copied {path : String} {copy : Entry} {mode : Nat} (formed : WellFormed start)
    (template : start.entryAt true path = .ok (source, .directory mode)) (proper : part ≠ [])
    (done : copied start path part entry = .ok copy) :
    CopyOf start source part (some entry) (some copy) := by
  unfold copied at done
  split at done
  · cases done
    exact .directory _
  · cases done
    exact .file ..
  · split at done <;> cases done
    next led =>
      obtain ⟨-, leads⟩ := (entryAt_directory_iff formed).mp template
      obtain ⟨left, fewer, goes⟩ := leads.follow_append formed (isDirectoryAt_startOf formed path)
      rw [goes true part proper] at led
      -- The links left at the template are no more than a path may pass that starts there.
      exact .link ((leads_of_follow led).of_le fewer).follow_eq
  · cases done

/-- The copy has a part exactly where the tree has one, and it is the copy of that part. -/
def CopiesTree (store : Store) (source : Location) (after : Store) (place : Location) : Prop :=
  ∀ part ≠ [], CopyOf store source part (store.get? (source ++ part)) (after.get? (place ++ part))

theorem CopiesTree.directory_above {after : Store} {place : Location} {name : String}
    (copies : CopiesTree store source after place) (formed : WellFormed store) (inside : part ≠ [])
    (found : after.get? (place ++ part ++ [name]) = some entry) :
    IsDirectoryAt after (place ++ part) := by
  have last := copies (part ++ [name]) (by simp)
  rw [← List.append_assoc, ← List.append_assoc, found] at last
  cases original : store.get? (source ++ part ++ [name]) with
  | none =>
      rw [original] at last
      cases last
  | some present =>
      obtain ⟨mode, directory⟩ := isDirectoryAt_iff.mp (formed.parent original)
      have above := copies part inside
      rw [directory] at above
      generalize copy : after.get? (place ++ part) = held at above
      cases above
      exact isDirectoryAt_iff.mpr ⟨_, copy⟩

namespace Copying

variable (copying : Copying)

/-- The depth of the walk bounds nothing: a walk that may go deeper ends alike. -/
theorem walk_eq_copyTree {depth : Nat} (deep : pathLimit < depth) :
    copying.walk depth [] ⟨copying.begun, []⟩ = copying.copyTree := by
  obtain ⟨more, rfl⟩ := Nat.exists_eq_add_of_lt deep
  rw [Nat.add_right_comm, copying.walk_enough more (by simp) (absurd rfl)]
  rfl

theorem copyTree_dropTree :
    copying.copyTree.state.store.dropTree copying.growing =
      copying.begun.dropTree copying.growing := by
  have outlasts : copying.Outlasts fun store =>
      store.dropTree copying.growing = copying.begun.dropTree copying.growing := by
    intro store part copy _ _ holds
    rw [dropTree_put (List.prefix_append ..), holds]
  exact (copying.walk_maintains outlasts _ _ _).leads rfl

theorem copyTree_current : copying.copyTree.state.store.current = copying.before.current := by
  have outlasts : copying.Outlasts fun store => store.current = copying.before.current :=
    fun _ _ _ _ _ holds => holds
  exact (copying.walk_maintains outlasts _ _ _).leads rfl

theorem copyTree_keyed (keyed : Keyed copying.before) (inside : copying.growing ≠ []) :
    Keyed copying.copyTree.state.store := by
  have outlasts : copying.Outlasts Keyed :=
    fun _ _ _ proper _ holds => holds.put (by simp [proper])
  exact (copying.walk_maintains outlasts _ _ _).leads (keyed.put inside)

/-- What a copy begins with: a template that is there, and a directory with a free place in it. -/
structure Ready : Prop where
  formed : WellFormed copying.before
  template : ∃ mode, copying.before.entryAt true copying.source =
    .ok (copying.origin, .directory mode)
  clear : Clear copying.before copying.growing
  inside : copying.growing ≠ []
  parent : IsDirectoryAt copying.before copying.growing.dropLast

variable {copying}

namespace Ready

variable (ready : copying.Ready)
include ready

theorem get?_begun (other : Location) : copying.begun.get? other =
    if other = copying.growing then some (.directory growingMode) else copying.before.get? other :=
  get?_put copying.before copying.growing other _ ready.inside

theorem begun_formed : WellFormed copying.begun := by
  have absent := ready.clear.get? ready.inside []
  rw [List.append_nil] at absent
  exact ready.formed.put_directory absent ready.parent

theorem not_above_template : ¬ copying.growing <+: copying.origin := by
  rintro ⟨rest, whole⟩
  obtain ⟨mode, led⟩ := ready.template
  have there := get?_of_entryAt ready.formed led
  rw [← whole, ready.clear.get? ready.inside rest] at there
  contradiction

/-- A copy that grows inside its template is never finished. -/
theorem copyTree_nested (nested : copying.origin <+: copying.growing) :
    ∃ failure, copying.copyTree.value = .error failure := by
  obtain ⟨inner, whole⟩ := nested
  have proper : inner ≠ [] := by
    rintro rfl
    rw [List.append_nil] at whole
    exact ready.not_above_template (whole ▸ List.prefix_rfl)
  refine copying.walk_nested whole.symm proper (by simp) (absurd rfl) List.nil_prefix ?_
  rintro way ⟨rest, split⟩
  rw [List.append_nil] at split
  have top : copying.begun.get? (copying.origin ++ way ++ rest) = some (.directory growingMode) := by
    rw [ready.get?_begun, List.append_assoc, split, if_pos whole]
  by_cases last : rest = []
  · rw [last, List.append_nil] at top
    exact isDirectoryAt_iff.mpr ⟨_, top⟩
  · exact ready.begun_formed.directory_above last top

theorem fresh_listing :
    copying.Fresh (listing copying.before copying.origin (pathLimit + 1) []) copying.begun := by
  rintro ⟨part, entry⟩ member
  obtain ⟨rest, proper, _, rfl, _⟩ := (mem_listing ready.formed).mp member
  rw [ready.get?_begun, if_neg (by simpa using proper)]
  exact ready.clear.get? ready.inside _

theorem outlasts_unchanged (apart : ¬ copying.origin <+: copying.growing) :
    copying.Outlasts copying.Unchanged := by
  intro store part copy _ _ holds other
  rw [children_put, holds other]
  intro within
  exact not_prefix_append apart ready.not_above_template part
    ((List.prefix_append ..).trans within)

/-- Apart from its copy, the template is copied as it was, part for part, or some part of it cannot be
copied. -/
theorem copyTree_apart (apart : ¬ copying.origin <+: copying.growing) :
    let entries := listing copying.before copying.origin (pathLimit + 1) []
    ((∀ present ∈ entries, copying.Takes present.1 present.2) ∧
      copying.copyTree.value = .ok () ∧
      copying.Visited entries ⟨copying.begun, []⟩ copying.copyTree.state) ∨
    (¬ ∀ present ∈ entries, copying.Takes present.1 present.2) ∧
      ∃ failure, copying.copyTree.value = .error failure := by
  intro entries
  have unchanged : copying.Unchanged copying.begun := by
    intro part
    refine children_put fun within => apart ((List.prefix_append ..).trans within)
  have same : copying.copyTree = copying.visitAll entries ⟨copying.begun, []⟩ :=
    copying.walk_eq_visitAll (ready.outlasts_unchanged apart) _ _ unchanged
  rw [same]
  exact copying.visitAll_cases ready.inside (listing_nodup ready.formed ..) ready.fresh_listing

/-- Where every part of the template can be copied, the listing is the whole template. -/
theorem mem_listing_of_takes
    (takes : ∀ present ∈ listing copying.before copying.origin (pathLimit + 1) [],
      copying.Takes present.1 present.2) :
    (part, entry) ∈ listing copying.before copying.origin (pathLimit + 1) [] ↔
      part ≠ [] ∧ copying.before.get? (copying.origin ++ part) = some entry := by
  constructor
  · intro member
    obtain ⟨rest, proper, _, rfl, held⟩ := (mem_listing ready.formed).mp member
    exact ⟨by simpa using proper, held⟩
  · rintro ⟨proper, held⟩
    exact mem_listing_of_bounded ready.formed
      (fun present member => length_le_of_allowed (takes present member).target) proper held

theorem copyTree_done (done : copying.copyTree.value = .ok ()) :
    ¬ copying.origin <+: copying.growing ∧
    (∀ present ∈ listing copying.before copying.origin (pathLimit + 1) [],
      copying.Takes present.1 present.2) ∧
    copying.Visited (listing copying.before copying.origin (pathLimit + 1) []) ⟨copying.begun, []⟩
      copying.copyTree.state := by
  have apart : ¬ copying.origin <+: copying.growing := by
    intro nested
    obtain ⟨failure, failed⟩ := ready.copyTree_nested nested
    rw [failed] at done
    contradiction
  rcases ready.copyTree_apart apart with ⟨takes, _, visited⟩ | ⟨_, failure, failed⟩
  · exact ⟨apart, takes, visited⟩
  · rw [failed] at done
    contradiction

theorem copyTree_ok_iff (apart : ¬ copying.origin <+: copying.growing) :
    copying.copyTree.value = .ok () ↔
      ∀ part ≠ [], ∀ entry, copying.before.get? (copying.origin ++ part) = some entry →
        copying.Takes part entry := by
  constructor
  · intro done part proper entry held
    obtain ⟨_, takes, _⟩ := ready.copyTree_done done
    exact takes _ ((ready.mem_listing_of_takes takes).mpr ⟨proper, held⟩)
  · intro takes
    rcases ready.copyTree_apart apart with ⟨_, done, _⟩ | ⟨refused, _⟩
    · exact done
    · refine absurd (fun present member => ?_) refused
      obtain ⟨rest, proper, _, split, held⟩ := (mem_listing ready.formed).mp member
      rw [split] at held
      rw [split]
      exact takes _ (by simpa using proper) _ held

theorem copyTree_visited (done : copying.copyTree.value = .ok ()) :
    copying.copyTree.state.visited.Perm ((copying.before.below copying.origin).map Prod.fst) := by
  obtain ⟨_, takes, visited⟩ := ready.copyTree_done done
  rw [visited.visited, List.nil_append]
  refine (List.perm_ext_iff_of_nodup (listing_nodup ready.formed ..)
    (nodup_below ready.formed.distinct)).mpr fun part => ?_
  rw [mem_parts_iff ready.formed.toKeyed]
  simp only [List.mem_map, Prod.exists, exists_and_right, exists_eq_right,
    ready.mem_listing_of_takes takes, exists_and_left]

theorem copyTree_get? (done : copying.copyTree.value = .ok ()) {other : Location}
    (elsewhere : ¬ copying.growing <+: other ∨ other = copying.growing) :
    copying.copyTree.state.store.get? other = copying.begun.get? other := by
  obtain ⟨_, takes, visited⟩ := ready.copyTree_done done
  refine visited.others other fun present member same => ?_
  have proper := ((ready.mem_listing_of_takes takes).mp member).1
  rcases elsewhere with outside | here
  · exact outside (same ▸ List.prefix_append ..)
  · exact proper (by simpa [here] using same)

theorem copyTree_copies (done : copying.copyTree.value = .ok ()) :
    CopiesTree copying.before copying.origin copying.copyTree.state.store copying.growing := by
  obtain ⟨_, takes, visited⟩ := ready.copyTree_done done
  intro part proper
  cases held : copying.before.get? (copying.origin ++ part) with
  | some entry =>
      obtain ⟨copy, made, there⟩ :=
        visited.copies _ ((ready.mem_listing_of_takes takes).mpr ⟨proper, held⟩)
      obtain ⟨mode, template⟩ := ready.template
      rw [there]
      exact copyOf_copied ready.formed template proper made
  | none =>
      have nothing : copying.copyTree.state.store.get? (copying.growing ++ part) = none := by
        rw [visited.others, ready.get?_begun, if_neg (by simpa using proper)]
        · exact ready.clear.get? ready.inside part
        · rintro ⟨other, entry⟩ member same
          obtain ⟨_, present⟩ := (ready.mem_listing_of_takes takes).mp member
          rw [List.append_cancel_left same, present] at held
          contradiction
      rw [nothing]
      exact .nothing

theorem copyTree_grafts (done : copying.copyTree.value = .ok ()) :
    Grafts copying.before copying.copyTree.state.store copying.growing ∧
      copying.copyTree.state.store.get? copying.growing = some (.directory growingMode) := by
  have copies := ready.copyTree_copies done
  have top : copying.copyTree.state.store.get? copying.growing = some (.directory growingMode) := by
    rw [ready.copyTree_get? done (.inr rfl), ready.get?_begun, if_pos rfl]
  have absent := ready.clear.get? ready.inside []
  rw [List.append_nil] at absent
  refine ⟨?_, top⟩
  exact {
    keyed := copying.copyTree_keyed ready.formed.toKeyed ready.inside
    current := copying.copyTree_current
    inside := ready.inside
    parent := ready.parent
    free := .inl absent
    empty := fun part _ => ready.clear.get? ready.inside part
    top := isDirectoryAt_iff.mpr ⟨growingMode, top⟩
    closed := by
      intro part name entry found
      by_cases here : part = []
      · rw [here, List.append_nil]
        exact isDirectoryAt_iff.mpr ⟨growingMode, top⟩
      · exact copies.directory_above ready.formed here found
    elsewhere := by
      intro other outside
      have different : other ≠ copying.growing := by
        rintro rfl
        exact outside List.prefix_rfl
      rw [ready.copyTree_get? done (.inl outside), ready.get?_begun, if_neg different] }

end Ready

end Copying

end Groundwork.Staging
