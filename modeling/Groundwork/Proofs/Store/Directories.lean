import Groundwork.Proofs.Act
import Groundwork.Proofs.Store.Walk
import Groundwork.Store.Directories

namespace Groundwork.Store

/-! What making directories leaves. -/

variable {store before middle after made : Store} {place : Location} {path parent : String}
  {paths more : List String} {mode : Nat}

theorem makeDirectory_eq_ok (formed : WellFormed store)
    (done : store.makeDirectory mode path = .ok made) :
    ∃ place, store.get? place = none ∧ store.locateName path = .ok (.vacant place) ∧
      made = store.put place (.directory mode) ∧ WellFormed made ∧
      made.entryAt true path = .ok (place, .directory mode) := by
  unfold makeDirectory at done
  split at done <;> cases done
  next place located =>
  obtain ⟨accepted, leads⟩ := locateSteps_eq_ok_iff.mp located
  obtain ⟨absent, parent⟩ := leads.sound formed (isDirectoryAt_startOf formed path)
  have larger : WellFormed (store.put place (.directory mode)) := formed.put_directory absent parent
  have there : (store.put place (.directory mode)).get? place = some (.directory mode) :=
    get?_put_self store place _ (ne_nil_of_get? absent)
  obtain ⟨_, later, kept⟩ := leads.of_vacant.keeps (keeps_put absent) (fun _ same => by
    cases same
    exact isDirectoryAt_iff.mpr ⟨mode, there⟩)
  cases kept with
  | filled _ other =>
      have found := later.sound larger (isDirectoryAt_startOf larger path)
      cases there.symm.trans found
      exact ⟨place, absent, located, rfl, larger, (entryAt_directory_iff larger).mpr ⟨accepted, later⟩⟩

/-- Everything is as before, but for new directories that the paths lead to. -/
structure OnlyMakes (paths : List String) (before after : Store) : Prop where
  formed : WellFormed after
  current : after.current = before.current
  places : ∀ place, after.get? place = before.get? place ∨
    before.get? place = none ∧ ∃ path ∈ paths,
      after.entryAt true path = .ok (place, .directory directoryMode)

namespace OnlyMakes

theorem refl (formed : WellFormed store) : OnlyMakes paths store store :=
  ⟨formed, rfl, fun _ => .inl rfl⟩

theorem keeps (makes : OnlyMakes paths before after) : Keeps before after := by
  refine ⟨makes.current, fun place entry found => ⟨entry, ?_, .same entry⟩⟩
  rcases makes.places place with same | ⟨absent, -⟩
  · rw [same, found]
  · rw [absent] at found
    cases found

theorem absent_before (makes : OnlyMakes paths before after) (absent : after.get? place = none) :
    before.get? place = none := by
  rcases makes.places place with same | ⟨older, -⟩
  · rw [← same, absent]
  · exact older

theorem mono (makes : OnlyMakes paths before after) (fewer : paths ⊆ more) :
    OnlyMakes more before after := by
  refine ⟨makes.formed, makes.current, fun place => (makes.places place).imp_right ?_⟩
  rintro ⟨absent, path, member, led⟩
  exact ⟨absent, path, fewer member, led⟩

theorem trans (first : OnlyMakes paths before middle) (second : OnlyMakes paths middle after) :
    OnlyMakes paths before after := by
  refine ⟨second.formed, second.current.trans first.current, fun place => ?_⟩
  rcases second.places place with same | ⟨absent, path, member, led⟩
  · rcases first.places place with unchanged | ⟨absent, path, member, led⟩
    · exact .inl (same.trans unchanged)
    · obtain ⟨entry, kept, alike⟩ := entryAt_keeps second.keeps led
      have there := get?_of_entryAt second.formed kept
      rw [same, get?_of_entryAt first.formed led] at there
      cases there
      exact .inr ⟨absent, path, member, kept⟩
  · rcases first.places place with unchanged | ⟨older, -⟩
    · exact .inr ⟨unchanged ▸ absent, path, member, led⟩
    · exact .inr ⟨older, path, member, led⟩

end OnlyMakes

theorem makeDirectory_onlyMakes (formed : WellFormed store)
    (done : store.makeDirectory directoryMode path = .ok made) : OnlyMakes [path] store made := by
  obtain ⟨place, absent, -, rfl, larger, led⟩ := makeDirectory_eq_ok formed done
  refine ⟨larger, rfl, fun other => ?_⟩
  by_cases same : other = place
  · subst same
    exact .inr ⟨absent, path, List.mem_cons_self, led⟩
  · exact .inl (by rw [get?_put store place other _ (ne_nil_of_get? absent), if_neg same])

theorem makeOrFind_cases (path : String) (store : Store) :
    (∃ made, store.makeDirectory directoryMode path = .ok made ∧
      makeFrom.makeOrFind path store = ⟨.ok (), made, []⟩) ∨
    (store.isDirectory path = true ∧ makeFrom.makeOrFind path store = ⟨.ok (), store, []⟩) ∨
    (store.isDirectory path = false ∧
      ∃ cause, makeFrom.makeOrFind path store = ⟨.error (.io cause), store, []⟩) := by
  unfold makeFrom.makeOrFind
  split
  · next made done => exact .inl ⟨made, done, rfl⟩
  · next cause _ =>
      cases there : store.isDirectory path with
      | true => exact .inr (.inl ⟨rfl, rfl⟩)
      | false => exact .inr (.inr ⟨rfl, cause, rfl⟩)

/-- The outer paths fail, or the path is made at last: at once, or after the outer ones. -/
theorem makeFrom_cases (outer : List String) (store : Store) (proper : path ≠ "") :
    (∃ failure, (makeFrom outer store).value = .error failure ∧
      (makeFrom (path :: outer) store).value = .error failure ∧
      (makeFrom (path :: outer) store).state = (makeFrom outer store).state) ∨
    ∃ middle, (middle = store ∨
        (makeFrom outer store).value = .ok () ∧ middle = (makeFrom outer store).state) ∧
      (makeFrom (path :: outer) store).value = (makeFrom.makeOrFind path middle).value ∧
      (makeFrom (path :: outer) store).state = (makeFrom.makeOrFind path middle).state := by
  rw [makeFrom]
  simp only [String.isEmpty_iff, proper, ↓reduceIte]
  split
  · next made done => exact .inr ⟨store, .inl rfl, by simp [makeFrom.makeOrFind, done]⟩
  · next cause failed =>
      split
      · cases outcome : (makeFrom outer store).value with
        | error failure => exact .inl ⟨failure, rfl, by simp [Act.andThen, outcome]⟩
        | ok => exact .inr ⟨_, .inr ⟨rfl, rfl⟩, by simp [Act.andThen, outcome]⟩
      · exact .inr ⟨store, .inl rfl, by simp [makeFrom.makeOrFind, failed]⟩

theorem makeOrFind_onlyMakes (formed : WellFormed store) :
    OnlyMakes [path] store (makeFrom.makeOrFind path store).state := by
  rcases makeOrFind_cases path store with ⟨made, done, result⟩ | ⟨_, result⟩ | ⟨_, cause, result⟩
  · rw [result]
    exact makeDirectory_onlyMakes formed done
  · rw [result]
    exact .refl formed
  · rw [result]
    exact .refl formed

theorem makeFrom_onlyMakes (formed : WellFormed store) :
    OnlyMakes paths store (makeFrom paths store).state := by
  induction paths with
  | nil => exact .refl formed
  | cons path outer ih =>
      by_cases proper : path = ""
      · subst proper
        exact .refl formed
      have first : OnlyMakes (path :: outer) store (makeFrom outer store).state :=
        ih.mono (List.subset_cons_self ..)
      have last : ∀ {middle}, WellFormed middle →
          OnlyMakes (path :: outer) middle (makeFrom.makeOrFind path middle).state :=
        fun formed => (makeOrFind_onlyMakes formed).mono (by simp)
      rcases makeFrom_cases outer store proper with ⟨_, _, _, state⟩ | ⟨middle, begun, _, state⟩
      · rwa [state]
      · rw [state]
        rcases begun with rfl | ⟨_, rfl⟩
        · exact last formed
        · exact first.trans (last first.formed)

theorem isDirectory_of_makeOrFind_error {failure : Failure}
    (failed : (makeFrom.makeOrFind path store).value = .error failure) :
    (makeFrom.makeOrFind path store).state.isDirectory path = false := by
  rcases makeOrFind_cases path store with ⟨made, _, result⟩ | ⟨_, result⟩ | ⟨absent, cause, result⟩
  · rw [result] at failed
    cases failed
  · rw [result] at failed
    cases failed
  · rwa [result]

/-- The path leads to a directory that holds nothing, and all that is new lies on the way to it. -/
structure NewAt (before after : Store) (path : String) (place : Location) : Prop where
  led : after.entryAt true path = .ok (place, .directory directoryMode)
  empty : ∀ part ≠ [], after.get? (place ++ part) = none
  new : ∀ other, after.get? other ≠ before.get? other → other <+: place

theorem makeDirectory_newAt (formed : WellFormed store)
    (done : store.makeDirectory directoryMode path = .ok made) :
    ∃ place, NewAt store made path place ∧ store.locateName path = .ok (.vacant place) := by
  obtain ⟨place, absent, located, rfl, larger, led⟩ := makeDirectory_eq_ok formed done
  have inside := ne_nil_of_get? absent
  refine ⟨place, ⟨led, fun part proper => ?_, fun other changed => ?_⟩, located⟩
  · rw [get?_put store place _ _ inside, if_neg (by simpa using proper)]
    exact (formed.clear absent).get? inside part
  · rw [get?_put store place _ _ inside] at changed
    split at changed
    · next same => exact same ▸ List.prefix_rfl
    · exact absurd rfl changed

theorem makeOrFind_eq_ok (formed : WellFormed store)
    (done : (makeFrom.makeOrFind path store).value = .ok ()) :
    ((makeFrom.makeOrFind path store).state = store ∧ store.isDirectory path = true) ∨
      ∃ place, NewAt store (makeFrom.makeOrFind path store).state path place ∧
        store.locateName path = .ok (.vacant place) := by
  rcases makeOrFind_cases path store with ⟨made, new, result⟩ | ⟨there, result⟩ | ⟨_, cause, result⟩
  · rw [result]
    exact .inr (makeDirectory_newAt formed new)
  · rw [result]
    exact .inl ⟨rfl, there⟩
  · rw [result] at done
    cases done

theorem isDirectory_of_makeOrFind (formed : WellFormed store)
    (done : (makeFrom.makeOrFind path store).value = .ok ()) :
    (makeFrom.makeOrFind path store).state.isDirectory path = true := by
  rcases makeOrFind_eq_ok formed done with ⟨same, there⟩ | ⟨place, new, _⟩
  · rwa [same]
  · exact isDirectory_iff.mpr ⟨place, _, new.led⟩

theorem isDirectory_of_makeFrom (formed : WellFormed store) {outer : List String} (proper : path ≠ "")
    (done : (makeFrom (path :: outer) store).value = .ok ()) :
    (makeFrom (path :: outer) store).state.isDirectory path = true := by
  rcases makeFrom_cases outer store proper with ⟨_, _, failed, _⟩ | ⟨middle, begun, value, state⟩
  · rw [failed] at done
    cases done
  · rw [value] at done
    rw [state]
    rcases begun with rfl | ⟨_, rfl⟩
    · exact isDirectory_of_makeOrFind formed done
    · exact isDirectory_of_makeOrFind (makeFrom_onlyMakes formed).formed done

/-- Each path of the list is the parent of the one before it. -/
inductive Ascends : String → List String → Prop
  | last (path : String) : Ascends path []
  | parent {path parent : String} {outer : List String} (found : Path.parent? path = some parent)
      (ascends : Ascends parent outer) : Ascends path (parent :: outer)

theorem ascends_ancestorsWithin (fuel : Nat) (path : String) :
    Ascends path (Path.ancestorsWithin fuel path) := by
  induction fuel generalizing path with
  | zero => exact .last path
  | succ fuel ih =>
      rw [Path.ancestorsWithin]
      split
      · next parent found => exact .parent found (ih parent)
      · exact .last path

theorem Ascends.isDirectory_of_error {outer : List String} (ascends : Ascends path outer)
    (formed : WellFormed store) {failure : Failure} (proper : path ≠ "")
    (failed : (makeFrom (path :: outer) store).value = .error failure) :
    (makeFrom (path :: outer) store).state.isDirectory path = false := by
  induction ascends generalizing failure with
  | last path =>
      rcases makeFrom_cases [] store proper with ⟨_, before, _⟩ | ⟨middle, _, value, state⟩
      · cases before
      · rw [value] at failed
        rw [state]
        exact isDirectory_of_makeOrFind_error failed
  | @parent path parent outer found _ ih =>
      rcases makeFrom_cases (parent :: outer) store proper with
        ⟨_, before, _, state⟩ | ⟨middle, _, value, state⟩
      · rw [state]
        have above : parent ≠ "" := by
          rintro rfl
          cases before
        have upper := ih above before
        refine Bool.eq_false_iff.mpr fun there => ?_
        rw [isDirectory_parent (makeFrom_onlyMakes formed).formed found above
          (isPresent_of_isDirectory there)] at upper
        cases upper
      · rw [value] at failed
        rw [state]
        exact isDirectory_of_makeOrFind_error failed

theorem makeOrFind_fresh (formed : WellFormed store)
    (done : (makeFrom.makeOrFind path store).value = .ok ()) :
    (makeFrom.makeOrFind path store).state = store ∨
      ∃ place, NewAt store (makeFrom.makeOrFind path store).state path place := by
  rcases makeOrFind_eq_ok formed done with ⟨same, _⟩ | ⟨place, new, _⟩
  · exact .inl same
  · exact .inr ⟨place, new⟩

theorem NewAt.trans {above : Location} (upper : NewAt before middle parent above)
    (new : NewAt middle after path place) (within : above <+: place) :
    NewAt before after path place := by
  refine ⟨new.led, new.empty, fun other changed => ?_⟩
  by_cases same : after.get? other = middle.get? other
  · exact (upper.new other (same ▸ changed)).trans within
  · exact new.new other same

theorem makeOrFind_of_isDirectory (formed : WellFormed store) (there : store.isDirectory path = true) :
    makeFrom.makeOrFind path store = ⟨.ok (), store, []⟩ := by
  rcases makeOrFind_cases path store with ⟨made, new, _⟩ | ⟨_, result⟩ | ⟨absent, _⟩
  · obtain ⟨place, absent, _, rfl, _, led⟩ := makeDirectory_eq_ok formed new
    obtain ⟨old, mode, found⟩ := isDirectory_iff.mp there
    obtain ⟨_, kept, _⟩ := entryAt_keeps (keeps_put absent) found
    cases kept.symm.trans led
    cases absent.symm.trans (get?_of_entryAt formed found)
  · exact result
  · rw [there] at absent
    cases absent

theorem Ascends.kept {outer : List String} (ascends : Ascends path outer) (formed : WellFormed store)
    (there : store.isDirectory path = true) :
    (makeFrom (path :: outer) store).value = .ok () ∧
      (makeFrom (path :: outer) store).state = store := by
  by_cases proper : path = ""
  · subst proper
    exact ⟨rfl, rfl⟩
  have found := makeOrFind_of_isDirectory formed there
  induction ascends with
  | last path =>
      rcases makeFrom_cases [] store proper with ⟨_, before, _⟩ | ⟨_, rfl | ⟨_, rfl⟩, value, state⟩
      · cases before
      · rw [value, state, found]
        exact ⟨rfl, rfl⟩
      · rw [value, state]
        exact ⟨congrArg Act.Result.value found, congrArg Act.Result.state found⟩
  | @parent path parent outer beside _ ih =>
      have outerKept : (makeFrom (parent :: outer) store).value = .ok () ∧
          (makeFrom (parent :: outer) store).state = store := by
        by_cases above : parent = ""
        · subst above
          exact ⟨rfl, rfl⟩
        · have upper := isDirectory_parent formed beside above (isPresent_of_isDirectory there)
          exact ih upper above (makeOrFind_of_isDirectory formed upper)
      rcases makeFrom_cases (parent :: outer) store proper with
        ⟨_, failed, _⟩ | ⟨middle, begun, value, state⟩
      · rw [outerKept.1] at failed
        cases failed
      · have same : middle = store := begun.elim id fun ⟨_, outerState⟩ => outerState.trans outerKept.2
        rw [value, state, same, found]
        exact ⟨rfl, rfl⟩

theorem makeDirectories_above (formed : WellFormed store) (present : store.isPresent path = true) :
    (makeDirectories ((Path.parent? path).getD "") store).value = .ok () ∧
      (makeDirectories ((Path.parent? path).getD "") store).state = store := by
  cases found : Path.parent? path with
  | none => exact ⟨rfl, rfl⟩
  | some parent =>
      by_cases bare : parent = ""
      · subst bare
        exact ⟨rfl, rfl⟩
      · have there := isDirectory_parent formed found bare present
        exact (ascends_ancestorsWithin _ parent).kept formed there

/-- Wherever a path of the list goes up, it does so from a directory that is there. -/
def Steady (store : Store) (paths : List String) : Prop :=
  ∀ path ∈ paths, Path.endsUp path = true → store.isDirectory path = true

instance : Decidable (Steady store paths) :=
  inferInstanceAs (Decidable (∀ path ∈ paths, _ → _))

/-- A path was there already, or it leads to a new directory that holds nothing. -/
theorem Ascends.fresh {outer : List String} (ascends : Ascends path outer) (formed : WellFormed store)
    (steady : Steady store (path :: outer)) (done : (makeFrom (path :: outer) store).value = .ok ()) :
    (makeFrom (path :: outer) store).state = store ∨
      ∃ place, NewAt store (makeFrom (path :: outer) store).state path place := by
  by_cases proper : path = ""
  · subst proper
    exact .inl rfl
  induction ascends with
  | last path =>
      rcases makeFrom_cases [] store proper with ⟨_, before, _⟩ | ⟨_, rfl | ⟨_, rfl⟩, value, state⟩
      · cases before
      · rw [value] at done
        rw [state]
        exact makeOrFind_fresh formed done
      · rw [value] at done
        rw [state]
        exact makeOrFind_fresh formed done
  | @parent path parent outer found ascends ih =>
      cases up : Path.endsUp path with
      | true =>
          have there := steady path List.mem_cons_self up
          exact .inl ((Ascends.parent found ascends).kept formed there).2
      | false =>
      rcases makeFrom_cases (parent :: outer) store proper with
        ⟨_, _, failed, _⟩ | ⟨middle, begun, value, state⟩
      · rw [failed] at done
        cases done
      rw [value] at done
      rw [state]
      by_cases same : middle = store
      · rw [same] at done ⊢
        exact makeOrFind_fresh formed done
      obtain ⟨before, rfl⟩ := begun.resolve_left same
      have above : parent ≠ "" := by
        rintro rfl
        exact same rfl
      have steadyAbove : Steady store (parent :: outer) :=
        fun other member => steady other (List.mem_cons_of_mem _ member)
      have upper : WellFormed (makeFrom (parent :: outer) store).state :=
        (makeFrom_onlyMakes formed).formed
      -- The directory above is new, so the path was missing in it and is new as well.
      obtain ⟨directory, newAbove⟩ := (ih steadyAbove before above).resolve_left same
      have empty := fun name => newAbove.empty [name] (by simp)
      rcases makeOrFind_eq_ok upper done with ⟨_, there⟩ | ⟨place, new, located⟩
      · have absent := isPresent_of_empty upper found above up newAbove.led empty
        rw [isPresent_of_isDirectory there] at absent
        cases absent
      · obtain ⟨-, leads⟩ := locateSteps_eq_ok_iff.mp located
        rw [← List.append_nil (Path.parts path)] at leads
        obtain ⟨name, vacant⟩ := leads.vacant_of_empty upper found above up newAbove.led empty
        cases vacant
        exact .inr ⟨_, newAbove.trans new (List.prefix_append ..)⟩

section

variable {source destination : String} {origin growing : Location} {grown moved : Store}

theorem rename_directory_eq_ok
    (located : store.locateName source = .ok (.taken origin (.directory mode)))
    (done : store.rename source destination = .ok moved) :
    ∃ spot name, store.locateName destination = .ok spot ∧ lastName? destination = some name ∧
      (spot.place = origin ∧ moved = store ∨
        ¬ origin <+: spot.place ∧
          ((∃ place, spot = .vacant place ∧ moved = store.moveTree origin place) ∨
            ∃ place old, spot = .taken place (.directory old) ∧ store.isEmptyDirectory place = true ∧
              moved = (store.dropTree place).moveTree origin place)) := by
  cases goal : store.locateName destination with
  | error cause =>
      rw [rename, located, goal] at done
      cases done
  | ok spot =>
  simp only [rename, located, goal, Entry.isDirectory, Bool.not_true, Bool.false_and,
    Bool.false_eq_true, Bool.true_and, ↓reduceIte] at done
  split at done
  · cases done
  next named =>
  simp only [Bool.or_eq_true, not_or, Bool.not_eq_true, Option.isNone_eq_false_iff] at named
  obtain ⟨name, last⟩ := Option.isSome_iff_exists.mp named.2
  refine ⟨spot, name, rfl, last, ?_⟩
  split at done
  · next same =>
      cases done
      exact .inl ⟨same, rfl⟩
  split at done
  · cases done
  next apart =>
  rw [isWithin_iff] at apart
  refine .inr ⟨apart, ?_⟩
  cases spot with
  | vacant place =>
      cases done
      exact .inl ⟨place, rfl, rfl⟩
  | taken place present =>
      cases present with
      | directory old =>
          simp only [Bool.not_true, Bool.false_eq_true, ↓reduceIte, Bool.true_and] at done
          split at done <;> cases done
          next empty => exact .inr ⟨place, old, rfl, by simpa using empty, rfl⟩
      | file | link | sink => cases done

theorem get?_of_isEmptyDirectory (empty : store.isEmptyDirectory place = true) {part : Location}
    (proper : part ≠ []) : store.get? (place ++ part) = none := by
  rw [← find?_below proper, List.isEmpty_iff.mp empty]
  rfl

theorem isEmptyDirectory_of_get? (empty : ∀ part ≠ [], store.get? (place ++ part) = none) :
    store.isEmptyDirectory place = true := by
  refine List.isEmpty_iff.mpr (List.eq_nil_iff_forall_not_mem.mpr fun ⟨part, entry⟩ member => ?_)
  obtain ⟨proper, listed⟩ := mem_below member
  obtain ⟨present, found⟩ := exists_get?_of_mem listed
  rw [empty part proper] at found
  contradiction

/-- Where the destination has room, the directory can be moved there. -/
theorem rename_directory_ok_iff (located : store.locateName source = .ok (.taken origin (.directory mode)))
    (named : (lastName? source).isSome = true) :
    (∃ moved, store.rename source destination = .ok moved) ↔
      ∃ spot, store.locateName destination = .ok spot ∧ (lastName? destination).isSome = true ∧
        (spot.place = origin ∨ ¬ origin <+: spot.place ∧ ∀ present, spot.entry? = some present →
          present.isDirectory = true ∧ store.isEmptyDirectory spot.place = true) := by
  constructor
  · rintro ⟨moved, done⟩
    obtain ⟨spot, name, goal, last, ⟨same, -⟩ | ⟨apart, how⟩⟩ := rename_directory_eq_ok located done
    · exact ⟨spot, goal, by rw [last]; rfl, .inl same⟩
    · refine ⟨spot, goal, by rw [last]; rfl, .inr ⟨apart, fun present taken => ?_⟩⟩
      rcases how with ⟨place, rfl, -⟩ | ⟨place, old, rfl, empty, -⟩
      · contradiction
      · cases taken
        exact ⟨rfl, empty⟩
  · rintro ⟨spot, goal, last, room⟩
    have names : ((lastName? source).isNone || (lastName? destination).isNone) = false := by
      simp [Option.isNone_eq_false_iff.mpr named, Option.isNone_eq_false_iff.mpr last]
    rcases room with same | ⟨apart, room⟩
    · exact ⟨store, by simp [rename, located, goal, names, same, Entry.isDirectory]⟩
    have outside : isWithin spot.place origin = false :=
      Bool.eq_false_iff.mpr fun within => apart (isWithin_iff.mp within)
    have different : spot.place ≠ origin := fun same => apart (same ▸ List.prefix_rfl)
    cases spot with
    | vacant place =>
        exact ⟨store.moveTree origin place,
          by simp [rename, located, goal, names, outside, different, Entry.isDirectory]⟩
    | taken place present =>
        obtain ⟨directory, empty⟩ : _ ∧ store.isEmptyDirectory place = true := room present rfl
        cases present with
        | directory old =>
            exact ⟨(store.dropTree place).moveTree origin place,
              by simp [rename, located, goal, names, outside, different, empty, Entry.isDirectory]⟩
        | file | link | sink => contradiction

theorem not_prefix_append {first second : Location} (apart : ¬ first <+: second)
    (apartBack : ¬ second <+: first) (part : Location) : ¬ first <+: second ++ part := fun within =>
  (List.prefix_or_prefix_of_prefix within (List.prefix_append second part)).elim apart apartBack

theorem Grafts.moveTree (clear : Clear before growing)
    (grafts : Grafts before grown growing) (apart : ¬ growing <+: place)
    (parent : IsDirectoryAt grown place.dropLast)
    (free : grown.get? place = none ∨ IsDirectoryAt grown place)
    (empty : ∀ part ≠ [], grown.get? (place ++ part) = none) :
    Grafts before ((grown.dropTree place).moveTree growing place) place ∧
      ∀ part, ((grown.dropTree place).moveTree growing place).get? (place ++ part) =
        grown.get? (growing ++ part) := by
  obtain ⟨mode, top⟩ := isDirectoryAt_iff.mp grafts.top
  have above : ¬ place <+: growing := by
    rintro ⟨part, rfl⟩
    by_cases here : part = []
    · exact apart (by simp [here])
    · rw [empty part here] at top
      cases top
  have inside : place ≠ [] := by
    rintro rfl
    exact above List.nil_prefix
  have away := not_prefix_append apart above
  have outside := not_prefix_append above apart
  have below : ∀ part, ((grown.dropTree place).moveTree growing place).get? (place ++ part) =
      grown.get? (growing ++ part) := by
    intro part
    rw [get?_moveTree clear_dropTree (by simp [grafts.inside]) (by simp [inside]),
      get?_dropTree (outside part)]
  have unmoved : ∀ part, before.get? (place ++ part) = grown.get? (place ++ part) :=
    fun part => (grafts.elsewhere _ (away part)).symm
  have atPlace : before.get? place = grown.get? place := by simpa using unmoved []
  have atParent : grown.get? place.dropLast = before.get? place.dropLast :=
    grafts.elsewhere _ fun within => apart (within.trans (List.dropLast_prefix place))
  refine ⟨⟨?_, ?_, inside, ?_, ?_, ?_, ?_, ?_, ?_⟩, below⟩
  · exact grafts.keyed.dropTree.moveTree clear_dropTree inside
  · exact grafts.current
  · rwa [IsDirectoryAt, ← atParent]
  · rwa [IsDirectoryAt, atPlace]
  · intro part proper
    rw [unmoved, empty part proper]
  · have moved := below []
    rw [List.append_nil, List.append_nil, top] at moved
    exact isDirectoryAt_iff.mpr ⟨mode, moved⟩
  · intro part name entry found
    rw [List.append_assoc, below, ← List.append_assoc] at found
    have directory := grafts.closed part name entry found
    rwa [IsDirectoryAt, below]
  · intro other elsewhere
    by_cases within : growing <+: other
    · have proper : other ≠ [] := by
        rintro rfl
        exact grafts.inside (List.prefix_nil.mp within)
      rw [get?_moveTree_source elsewhere within proper]
      obtain ⟨part, rfl⟩ := within
      exact (clear.get? grafts.inside part).symm
    · rw [get?_moveTree_elsewhere elsewhere within, get?_dropTree elsewhere,
        grafts.elsewhere other within]

theorem Grafts.rename (formed : WellFormed before) (clear : Clear before growing)
    (grafts : Grafts before grown growing)
    (located : grown.locateName source = .ok (.taken growing (.directory mode)))
    (done : grown.rename source destination = .ok moved) :
    ∃ spot name, grown.locateName destination = .ok spot ∧ lastName? destination = some name ∧
      Grafts before moved spot.place ∧
      ∀ part, moved.get? (spot.place ++ part) = grown.get? (growing ++ part) := by
  have larger := grafts.wellFormed formed
  obtain ⟨spot, name, goal, last, ⟨here, same⟩ | ⟨apart, how⟩⟩ := rename_directory_eq_ok located done
  · subst same
    exact ⟨spot, name, goal, last, here ▸ grafts, fun part => by rw [here]⟩
  refine ⟨spot, name, goal, last, ?_⟩
  obtain ⟨-, leads⟩ := locateSteps_eq_ok_iff.mp goal
  have seen := leads.sound larger (isDirectoryAt_startOf larger destination)
  rcases how with ⟨place, rfl, rfl⟩ | ⟨place, old, rfl, empty, rfl⟩
  · simp only [Spot.place] at apart ⊢
    obtain ⟨absent, parent⟩ := seen
    have vacant := larger.clear absent
    have moves := grafts.moveTree clear apart parent (.inl absent)
      fun part _ => vacant.get? (ne_nil_of_get? absent) part
    rwa [dropTree_of_clear vacant] at moves
  · have directory : IsDirectoryAt grown place := isDirectoryAt_iff.mpr ⟨old, seen⟩
    exact grafts.moveTree clear apart (larger.dropLast directory) (.inr directory)
      fun part proper => get?_of_isEmptyDirectory empty proper

end

end Groundwork.Store
