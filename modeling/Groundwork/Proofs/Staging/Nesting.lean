import Groundwork.Proofs.Staging.Copy

namespace Groundwork.Staging

open Store

/-! When a copy ends with the tree as it was.

A copy grows in the directory of its destination.  Where that is a directory of the template, the walk
comes to the growing copy itself, and with each part of it that it copies it makes one more: such a copy
is never finished.  Everywhere else the copy ends with what the template held at the start, as long as
the system takes the paths and there is room at the destination.
-/

variable {start made grown : Store} {source destination : String} {copying : Copying}
  {origin directory : Location} {entry : Entry} {mode number : Nat}

/-- A directory can be moved to the place: nothing is there, or an empty directory that does not lie on
the way to it. -/
def HasRoom (store : Store) (place growing : Location) : Prop :=
  store.get? place = none ∨
    IsDirectoryAt store place ∧ (∀ part ≠ [], store.get? (place ++ part) = none) ∧
      ¬ place <+: growing

/-- The system takes the path of the destination, which ends in a name, and there is room. -/
structure Receives (store : Store) (destination : String) (growing : Location) : Prop where
  accepted : refusedPath destination = none
  room : ∃ name, lastName? destination = some name ∧ ¬ nameLimit < name.utf8ByteSize ∧
    ∀ directory entry, store.entryAt true (directoryOf destination) = .ok (directory, entry) →
      HasRoom store (directory ++ [name]) growing

/-- The system takes the path of the growing copy and its name. -/
def IsNamed (copying : Copying) : Prop :=
  refusedPath copying.path = none ∧
    ∀ name, copying.growing.getLast? = some name → ¬ nameLimit < name.utf8ByteSize

theorem Prepared.isNamed_iff (prepared : Prepared source destination made copying directory number) :
    IsNamed copying ↔
      refusedPath copying.path = none ∧ ¬ nameLimit < (growingName number).utf8ByteSize := by
  rw [IsNamed, prepared.growing, List.getLast?_concat]
  simp

theorem Prepared.lastName?_path (prepared : Prepared source destination made copying directory number) :
    lastName? copying.path = some (growingName number) := by
  obtain ⟨parts, relative, notDot, notUp⟩ := growingName_proper number
  rw [lastName?, prepared.path, Path.parts_join relative, parts, List.getLast?_concat]
  simp [notDot, notUp]

/-- The room that a moved copy needs is the room that there was before it began to grow. -/
theorem hasRoom_iff {name : String} {growing : Location} (grafts : Grafts made grown growing)
    (clear : Clear made growing) (above : IsDirectoryAt made directory) :
    HasRoom made (directory ++ [name]) growing ↔
      directory ++ [name] = growing ∨ ¬ growing <+: directory ++ [name] ∧
        ∀ present, grown.get? (directory ++ [name]) = some present →
          present.isDirectory = true ∧ grown.isEmptyDirectory (directory ++ [name]) = true := by
  by_cases within : growing <+: directory ++ [name]
  · rcases List.prefix_concat_iff.mp within with same | ⟨rest, inner⟩
    · have absent := clear.get? grafts.inside []
      rw [List.append_nil, same] at absent
      exact iff_of_true (.inl absent) (.inl same.symm)
    · obtain ⟨mode, found⟩ := isDirectoryAt_iff.mp above
      rw [← inner, clear.get? grafts.inside] at found
      contradiction
  have different : directory ++ [name] ≠ growing := fun same => within (same ▸ List.prefix_rfl)
  rw [grafts.elsewhere _ within, or_iff_right different, and_iff_right within]
  generalize directory ++ [name] = place at within
  constructor
  · rintro (absent | ⟨there, empty, apart⟩) present found
    · rw [absent] at found
      contradiction
    · obtain ⟨mode, directory⟩ := isDirectoryAt_iff.mp there
      cases found.symm.trans directory
      refine ⟨rfl, isEmptyDirectory_of_get? fun part proper => ?_⟩
      rw [grafts.elsewhere _ (not_prefix_append within apart part), empty part proper]
  · intro room
    cases found : made.get? place with
    | none => exact .inl found
    | some present =>
        obtain ⟨there, empty⟩ := room present found
        have apart : ¬ place <+: growing := by
          rintro ⟨part, rfl⟩
          obtain ⟨mode, top⟩ := isDirectoryAt_iff.mp grafts.top
          have proper : part ≠ [] := by
            rintro rfl
            exact within (by simp)
          rw [get?_of_isEmptyDirectory empty proper] at top
          contradiction
        refine .inr ⟨?_, fun part proper => ?_, apart⟩
        · rw [IsDirectoryAt, found, Option.map_some, there]
        · rw [← grafts.elsewhere _ (not_prefix_append within apart part)]
          exact get?_of_isEmptyDirectory empty proper

theorem Prepared.rename_ok_iff (prepared : Prepared source destination made copying directory number)
    (formed : WellFormed made) (led : made.isDirectory (directoryOf destination) = true)
    (grafts : Grafts made grown copying.growing)
    (top : grown.get? copying.growing = some (.directory growingMode)) :
    (∃ moved, grown.rename copying.path destination = .ok moved) ↔
      IsNamed copying ∧ Receives made destination copying.growing := by
  obtain ⟨home, mode, led⟩ := isDirectory_iff.mp led
  obtain ⟨other, kept⟩ := entryAt_keeps_directory grafts.keeps led
  have larger := grafts.wellFormed formed
  have above : IsDirectoryAt made home := isDirectoryAt_iff.mpr ⟨mode, get?_of_entryAt formed led⟩
  have named : (lastName? copying.path).isSome = true := by rw [prepared.lastName?_path]; rfl
  have located : ∀ spot, grown.locateName copying.path = .ok spot ↔
      IsNamed copying ∧ spot = .taken copying.growing (.directory growingMode) := fun spot => by
    rw [prepared.locateName_growing_iff formed grafts top, prepared.isNamed_iff, and_assoc]
  constructor
  · rintro ⟨moved, done⟩
    obtain ⟨spot, found⟩ := locateName_of_rename done
    obtain ⟨isNamed, rfl⟩ := (located spot).mp found
    obtain ⟨goal, goalFound, last, room⟩ := (rename_directory_ok_iff found named).mp ⟨moved, done⟩
    obtain ⟨name, last⟩ := Option.isSome_iff_exists.mp last
    obtain ⟨accepted, short, rfl⟩ := (locateName_destination_iff larger last kept).mp goalFound
    rw [spotAt_place, entry?_spotAt, ← hasRoom_iff grafts prepared.clear above] at room
    refine ⟨isNamed, accepted, name, last, short, fun _ _ same => ?_⟩
    cases led.symm.trans same
    exact room
  · rintro ⟨isNamed, accepted, name, last, short, room⟩
    have free := room _ _ led
    rw [hasRoom_iff grafts prepared.clear above] at free
    refine (rename_directory_ok_iff ((located _).mpr ⟨isNamed, rfl⟩) named).mpr
      ⟨grown.spotAt (home ++ [name]), ?_, by rw [last]; rfl, ?_⟩
    · exact (locateName_destination_iff larger last kept).mpr ⟨accepted, short, rfl⟩
    · rwa [spotAt_place, entry?_spotAt]

/-- The store in which the copy begins to grow: the directories above the destination have been made. -/
def madeFor (destination : String) (start : Store) : Store :=
  (makeDirectories (directoryOf destination) start).state

/-- The copy ends with the tree as it was: it has come to each part that the template had at the start
once, and to nothing else, and the destination holds these parts. -/
structure EndsWithTree (start : Store) (source destination : String) (origin : Location) : Prop where
  done : (copyIfAbsent source destination start).value = .ok true
  visited : ∃ copying, Copying.prepare source destination (madeFor destination start) = .ok copying ∧
    copying.copyTree.state.visited.Perm ((start.below origin).map Prod.fst)
  holds : ∃ place, (copyIfAbsent source destination start).state.entryAt true destination =
      .ok (place, .directory growingMode) ∧
    CopiesTree start origin (copyIfAbsent source destination start).state place

/-- All that a copy needs, to end with the tree as it was. -/
structure Unhindered (start : Store) (destination : String) (copying : Copying) : Prop where
  /-- The copy grows outside its template. -/
  apart : ¬ copying.origin <+: copying.growing
  /-- Nothing has been made in the template on the way to the destination. -/
  untouched : ∀ part, copying.before.get? (copying.origin ++ part) =
    start.get? (copying.origin ++ part)
  paths : ∀ part ≠ [], ∀ entry, start.get? (copying.origin ++ part) = some entry →
    refusedPath (Copying.pathBelow copying.source part) = none ∧
      refusedPath (Copying.pathBelow copying.path part) = none
  named : IsNamed copying
  received : Receives copying.before destination copying.growing

/-- Only files and directories are in the tree. -/
def IsPlain (store : Store) (origin : Location) : Prop :=
  ∀ part entry, store.get? (origin ++ part) = some entry → entry.isFile = true ∨ entry.isDirectory = true

theorem copied_of_isPlain {before : Store} {part : Location}
    (plain : entry.isFile = true ∨ entry.isDirectory = true) :
    ∃ copy, copied before source part entry = .ok copy := by
  cases entry with
  | file | directory => exact ⟨_, rfl⟩
  | link | sink => simp [Entry.isFile, Entry.isDirectory] at plain

theorem grow_ok_iff (prepared : Copying.prepare source destination made = .ok copying)
    (formed : WellFormed made) (began : made.entryAt true source = .ok (origin, .directory mode))
    (led : made.isDirectory (directoryOf destination) = true) :
    (grow source destination made).value = .ok () ↔
      ¬ copying.origin <+: copying.growing ∧
      (∀ part ≠ [], ∀ entry, made.get? (copying.origin ++ part) = some entry →
        copying.Takes part entry) ∧
      IsNamed copying ∧ Receives made destination copying.growing := by
  obtain ⟨directory, number, spec⟩ := prepared_of_prepare prepared
  obtain ⟨ready, -⟩ := spec.ready formed began
  have moves : copying.copyTree.value = .ok () →
      ((∃ moved, copying.copyTree.state.store.rename copying.path destination = .ok moved) ↔
        IsNamed copying ∧ Receives made destination copying.growing) := by
    intro complete
    obtain ⟨grafts, top⟩ := ready.copyTree_grafts complete
    rw [spec.before] at grafts
    exact spec.rename_ok_iff formed led grafts top
  have takes := fun apart => ready.copyTree_ok_iff apart
  rw [spec.before] at takes
  constructor
  · intro done
    rcases grow_cases source destination made with
      ⟨failure, failed, -⟩ | ⟨_, same, complete, -, moved⟩
    · rw [failed] at done
      contradiction
    · cases prepared.symm.trans same
      obtain ⟨apart, -⟩ := ready.copyTree_done complete
      exact ⟨apart, (takes apart).mp complete, (moves complete).mp ⟨_, moved⟩⟩
  · rintro ⟨apart, all, fits⟩
    have complete := (takes apart).mpr all
    obtain ⟨moved, renamed⟩ := (moves complete).mpr fits
    simp [grow, prepared, complete, renamed]

/-- Where only directories have been made, a tree that has the same parts is the same. -/
theorem parts_perm_iff {paths : List String} (makes : OnlyMakes paths start made)
    (formed : WellFormed start) (there : IsDirectoryAt start origin) :
    ((made.below origin).map Prod.fst).Perm ((start.below origin).map Prod.fst) ↔
      ∀ part, made.get? (origin ++ part) = start.get? (origin ++ part) := by
  rw [List.perm_ext_iff_of_nodup (nodup_below makes.formed.distinct) (nodup_below formed.distinct)]
  simp only [mem_parts_iff makes.formed.toKeyed, mem_parts_iff formed.toKeyed]
  constructor
  · intro same part
    rcases makes.places (origin ++ part) with unchanged | ⟨absent, path, -, led⟩
    · exact unchanged
    · have proper : part ≠ [] := by
        rintro rfl
        obtain ⟨mode, found⟩ := isDirectoryAt_iff.mp there
        rw [List.append_nil, found] at absent
        contradiction
      have new := get?_of_entryAt makes.formed led
      obtain ⟨-, entry, found⟩ := (same part).mp ⟨proper, _, new⟩
      rw [absent] at found
      contradiction
  · intro untouched part
    rw [untouched]

theorem CopiesTree.of_untouched {after : Store} {place : Location} (plain : IsPlain start origin)
    (untouched : ∀ part, made.get? (origin ++ part) = start.get? (origin ++ part))
    (copies : CopiesTree made origin after place) : CopiesTree start origin after place := by
  intro part proper
  have copy := copies part proper
  rw [untouched part] at copy
  have kind := plain part
  generalize start.get? (origin ++ part) = original at copy kind
  generalize after.get? (place ++ part) = held at copy ⊢
  cases copy with
  | nothing => exact .nothing
  | directory mode => exact .directory mode
  | file bytes mode => exact .file bytes mode
  | link =>
      rcases kind _ rfl with file | directory <;> contradiction

section

variable (formed : WellFormed start) (began : start.entryAt true source = .ok (origin, .directory mode))
  (absent : start.isPresent destination = false)
  (above : (makeDirectories (directoryOf destination) start).value = .ok ())

include formed

theorem madeFor_onlyMakes : OnlyMakes (waysTo destination) start (madeFor destination start) :=
  makeFrom_onlyMakes formed

include began

theorem madeFor_template (destination : String) :
    ∃ other, (madeFor destination start).entryAt true source = .ok (origin, .directory other) :=
  entryAt_keeps_directory (madeFor_onlyMakes formed).keeps began

theorem ready_of_prepare
    (prepared : Copying.prepare source destination (madeFor destination start) = .ok copying) :
    copying.Ready ∧ copying.before = madeFor destination start ∧ copying.origin = origin := by
  obtain ⟨_, template⟩ := madeFor_template formed began destination
  obtain ⟨_, _, spec⟩ := prepared_of_prepare prepared
  obtain ⟨ready, same⟩ := spec.ready (madeFor_onlyMakes formed).formed template
  exact ⟨ready, spec.before, same⟩

include absent above

theorem copyIfAbsent_ok_iff
    (prepared : Copying.prepare source destination (madeFor destination start) = .ok copying) :
    (copyIfAbsent source destination start).value = .ok true ↔
      ¬ copying.origin <+: copying.growing ∧
      (∀ part ≠ [], ∀ entry, copying.before.get? (copying.origin ++ part) = some entry →
        copying.Takes part entry) ∧
      IsNamed copying ∧ Receives copying.before destination copying.growing := by
  obtain ⟨_, template⟩ := madeFor_template formed began destination
  obtain ⟨_, before, _⟩ := ready_of_prepare formed began prepared
  have led := isDirectory_of_makeFrom formed (directoryOf_ne_empty destination) above
  obtain ⟨value, -⟩ := copyIfAbsent_of_made absent (isDirectory_iff.mpr ⟨_, _, began⟩) above
  rw [before, ← grow_ok_iff prepared (madeFor_onlyMakes formed).formed template led, value, ← madeFor]
  cases (grow source destination (madeFor destination start)).value <;> simp [Except.map]

theorem copyIfAbsent_arrives (done : (copyIfAbsent source destination start).value = .ok true) :
    ∃ place, Arrives (madeFor destination start) origin destination place
      (copyIfAbsent source destination start).state := by
  obtain ⟨_, template⟩ := madeFor_template formed began destination
  have led := isDirectory_of_makeFrom formed (directoryOf_ne_empty destination) above
  obtain ⟨value, state⟩ := copyIfAbsent_of_made absent (isDirectory_iff.mpr ⟨_, _, began⟩) above
  rw [value, ← madeFor] at done
  rw [state]
  refine grow_arrives (madeFor_onlyMakes formed).formed template led ?_
  cases grown : (grow source destination (madeFor destination start)).value with
  | error failure =>
      rw [grown] at done
      contradiction
  | ok => rfl

theorem copyIfAbsent_nested
    (prepared : Copying.prepare source destination (madeFor destination start) = .ok copying)
    (nested : copying.origin <+: copying.growing) :
    (∃ failure, (copyIfAbsent source destination start).value = .error failure) ∧
      (copyIfAbsent source destination start).state = madeFor destination start := by
  obtain ⟨ready, -⟩ := ready_of_prepare formed began prepared
  obtain ⟨value, state⟩ := copyIfAbsent_of_made absent (isDirectory_iff.mpr ⟨_, _, began⟩) above
  rw [← madeFor] at value state
  rcases grow_cases source destination (madeFor destination start) with
    ⟨failure, failed, same⟩ | ⟨_, again, complete, -⟩
  · rw [value, state, failed, same]
    exact ⟨⟨failure, rfl⟩, rfl⟩
  · cases prepared.symm.trans again
    obtain ⟨apart, -⟩ := ready.copyTree_done complete
    exact absurd nested apart

end

/-- The walk of a copy always ends, however deep it may go, and it ends with the tree as it was exactly
where nothing hinders the copy.  What hinders it first of all is to grow inside its own template:
wherever the destination lies there, the copy fails and leaves only the directories above the
destination. -/
theorem copyIfAbsent_ends_with_tree_iff (formed : WellFormed start)
    (began : start.entryAt true source = .ok (origin, .directory mode)) (plain : IsPlain start origin)
    (absent : start.isPresent destination = false)
    (above : (makeDirectories (directoryOf destination) start).value = .ok ()) :
    (∀ (copying : Copying) (depth : Nat), pathLimit < depth →
      copying.walk depth [] ⟨copying.begun, []⟩ = copying.copyTree) ∧
    (EndsWithTree start source destination origin ↔
      ∃ copying, Copying.prepare source destination (madeFor destination start) = .ok copying ∧
        Unhindered start destination copying) ∧
    ∀ copying, Copying.prepare source destination (madeFor destination start) = .ok copying →
      copying.origin <+: copying.growing →
        (∃ failure, (copyIfAbsent source destination start).value = .error failure) ∧
          (copyIfAbsent source destination start).state = madeFor destination start := by
  have makes : OnlyMakes (waysTo destination) start (madeFor destination start) :=
    madeFor_onlyMakes formed
  have there : IsDirectoryAt start origin :=
    isDirectoryAt_iff.mpr ⟨mode, get?_of_entryAt formed began⟩
  refine ⟨fun copying _ deep => copying.walk_eq_copyTree deep, ⟨?_, ?_⟩, fun _ prepared nested =>
    copyIfAbsent_nested formed began absent above prepared nested⟩
  · rintro ⟨done, ⟨copying, prepared, visited⟩, -⟩
    obtain ⟨ready, before, rfl⟩ := ready_of_prepare formed began prepared
    obtain ⟨apart, takes, named, received⟩ :=
      (copyIfAbsent_ok_iff formed began absent above prepared).mp done
    have complete := (ready.copyTree_ok_iff apart).mpr takes
    rw [← before] at makes
    have untouched := (parts_perm_iff makes formed there).mp
      ((ready.copyTree_visited complete).symm.trans visited)
    refine ⟨copying, prepared, apart, untouched, fun part proper entry found => ?_, named, received⟩
    have fits := takes part proper entry ((untouched part).trans found)
    exact ⟨fits.source, fits.target⟩
  · rintro ⟨copying, prepared, apart, untouched, paths, named, received⟩
    obtain ⟨ready, before, rfl⟩ := ready_of_prepare formed began prepared
    have takes : ∀ part ≠ [], ∀ entry, copying.before.get? (copying.origin ++ part) = some entry →
        copying.Takes part entry := by
      intro part proper entry found
      rw [untouched part] at found
      obtain ⟨readable, writable⟩ := paths part proper entry found
      exact ⟨readable, writable, copied_of_isPlain (plain part entry found)⟩
    have done := (copyIfAbsent_ok_iff formed began absent above prepared).mpr
      ⟨apart, takes, named, received⟩
    have complete := (ready.copyTree_ok_iff apart).mpr takes
    obtain ⟨place, arrives⟩ := copyIfAbsent_arrives formed began absent above done
    rw [← before] at makes arrives
    have visited := (ready.copyTree_visited complete).trans
      ((parts_perm_iff makes formed there).mpr untouched)
    exact ⟨done, ⟨copying, prepared, visited⟩, place, arrives.led,
      arrives.copies.of_untouched plain untouched⟩

/-- A project with a directory for what is built from it. -/
def project : Store :=
  { entries := [
      (["proj"], .directory directoryMode),
      (["proj", "a.txt"], .file "x".toUTF8 fileMode),
      (["proj", "build"], .directory directoryMode)]
    current := [] }

theorem project_parts {part : Location} (found : project.get? (["proj"] ++ part) = some entry) :
    (part = [] ∧ entry = .directory directoryMode) ∨
      (part = ["a.txt"] ∧ entry = .file "x".toUTF8 fileMode) ∨
      (part = ["build"] ∧ entry = .directory directoryMode) := by
  have member := mem_of_get? (by simp) found
  simpa [project] using member

theorem project_plain : IsPlain project ["proj"] := by
  intro part entry found
  rcases project_parts found with ⟨-, rfl⟩ | ⟨-, rfl⟩ | ⟨-, rfl⟩
  · exact .inr rfl
  · exact .inl rfl
  · exact .inr rfl

theorem project_unhindered :
    ∃ copying, Copying.prepare "proj" "out" (madeFor "out" project) = .ok copying ∧
      Unhindered project "out" copying := by
  refine ⟨_, rfl, ?_, fun part => rfl, ?_, ?_, ?_⟩
  · decide
  · intro part proper entry found
    rcases project_parts found with ⟨rfl, -⟩ | ⟨rfl, -⟩ | ⟨rfl, -⟩
    · contradiction
    · decide
    · decide
  · refine ⟨by decide, fun name last => ?_⟩
    cases last
    decide
  · refine ⟨by decide, "out", rfl, by decide, fun directory entry led => ?_⟩
    cases led
    exact .inl rfl

/-- Beside itself the project is copied whole, and into its own directory for builds not at all. -/
theorem project_copied_beside :
    EndsWithTree project "proj" "out" ["proj"] ∧
      (∃ failure, (copyIfAbsent "proj" "proj/build/out" project).value = .error failure) ∧
      (copyIfAbsent "proj" "proj/build/out" project).state = project := by
  have formed : WellFormed project := by decide
  have began : project.entryAt true "proj" = .ok (["proj"], .directory directoryMode) := rfl
  obtain ⟨-, ends, -⟩ := copyIfAbsent_ends_with_tree_iff formed began project_plain
    (show project.isPresent "out" = false by decide) rfl
  obtain ⟨-, -, nested⟩ := copyIfAbsent_ends_with_tree_iff formed began project_plain
    (show project.isPresent "proj/build/out" = false by decide) rfl
  exact ⟨ends.mpr project_unhindered, nested _ rfl (by decide)⟩

/-- Nothing but its place keeps the copy from ending. -/
theorem project_not_copied_inside :
    WellFormed project ∧
    project.entryAt true "proj" = .ok (["proj"], .directory directoryMode) ∧ IsPlain project ["proj"] ∧
    project.isPresent "proj/build/out" = false ∧
    (makeDirectories (directoryOf "proj/build/out") project).value = .ok () ∧
    ¬ EndsWithTree project "proj" "proj/build/out" ["proj"] := by
  have formed : WellFormed project := by decide
  have began : project.entryAt true "proj" = .ok (["proj"], .directory directoryMode) := rfl
  have absent : project.isPresent "proj/build/out" = false := by decide
  refine ⟨formed, began, project_plain, absent, rfl, fun ends => ?_⟩
  obtain ⟨⟨failure, failed⟩, -⟩ := copyIfAbsent_nested formed began absent rfl rfl (by decide)
  rw [ends.done] at failed
  contradiction

end Groundwork.Staging
