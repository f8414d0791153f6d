import Groundwork.Proofs.Staging.Growth

namespace Groundwork.Staging

open Store

/-! A copy is all there or not there at all. -/

variable {start made after grown : Store} {source destination name : String}
  {copying : Copying} {origin place : Location} {mode : Nat}

/-- The paths that are made before a copy begins. -/
def waysTo (destination : String) : List String :=
  directoryOf destination :: Path.ancestors (directoryOf destination)

theorem directoryOf_cases (destination : String) :
    (∃ parent, Path.parent? destination = some parent ∧ parent ≠ "" ∧
      directoryOf destination = parent) ∨
    (directoryOf destination = "." ∧
      (Path.parent? destination = none ∨ Path.parent? destination = some "")) := by
  unfold directoryOf Path.directory?
  cases found : Path.parent? destination with
  | none => exact .inr ⟨rfl, .inl rfl⟩
  | some parent =>
      by_cases empty : parent = ""
      · exact .inr ⟨by simp [empty], .inr (by rw [empty])⟩
      · exact .inl ⟨parent, rfl, empty, by simp [empty]⟩

theorem directoryOf_ne_empty (destination : String) : directoryOf destination ≠ "" := by
  rcases directoryOf_cases destination with ⟨parent, _, proper, same⟩ | ⟨here, _⟩
  · rwa [same]
  · rw [here]
    decide

theorem name_of_lastName? (last : lastName? destination = some name) :
    name ≠ "." ∧ name ≠ ".." ∧ (Path.parts destination).getLast? = some name := by
  unfold lastName? at last
  split at last
  · next other found =>
      split at last <;> cases last
      next proper =>
        rw [not_or] at proper
        exact ⟨proper.1, proper.2, found⟩
  · cases last

theorem parts_of_lastName? (last : lastName? destination = some name) :
    (∃ dots, Path.parent? destination = some (directoryOf destination) ∧
      directoryOf destination ≠ "" ∧ (∀ dot ∈ dots, dot = ".") ∧
      Path.parts destination = Path.parts (directoryOf destination) ++ (dots ++ [name])) ∨
    (directoryOf destination = "." ∧ Path.isAbsolute destination = false ∧
      Path.parts destination = [name]) := by
  obtain ⟨notDot, -, ends⟩ := name_of_lastName? last
  -- Only dots come after the last name, and the path ends in none.
  have alone : ∀ {front : List String} {own : String} {idle : List String},
      Path.parts destination = front ++ own :: idle → (∀ dot ∈ idle, dot = ".") →
        idle = [] ∧ own = name := by
    intro front own idle whole dots
    rcases List.eq_nil_or_concat' idle with rfl | ⟨before, dot, rfl⟩
    · rw [whole] at ends
      exact ⟨rfl, by simpa using ends⟩
    · rw [whole] at ends
      rw [← List.cons_append, ← List.append_assoc, List.getLast?_concat] at ends
      have same : dot = name := Option.some.inj ends
      exact absurd (same ▸ dots dot (by simp)) notDot
  rcases directoryOf_cases destination with ⟨parent, found, proper, same⟩ | ⟨here, none | bare⟩
  · obtain ⟨dots, own, idle, whole, -, skipped, behind⟩ := Path.parts_of_parent found proper
    obtain ⟨rfl, rfl⟩ := alone ((List.append_assoc ..).trans whole.symm).symm behind
    exact .inl ⟨dots, same ▸ found, same ▸ proper, skipped, same ▸ whole⟩
  · have member := List.mem_of_getLast? ends
    exact absurd (Path.parts_of_no_parent none name member) notDot
  · obtain ⟨relative, own, idle, whole, behind⟩ := Path.parts_of_bare bare
    obtain ⟨rfl, rfl⟩ := alone (show Path.parts destination = [] ++ own :: idle from whole) behind
    exact .inr ⟨here, relative, whole⟩

theorem follow_destination (formed : WellFormed start) (last : lastName? destination = some name)
    (led : start.entryAt true (directoryOf destination) = .ok (place, .directory mode)) :
    ∃ left, ∀ through idle,
      start.follow through linkLimit (start.startOf destination) (Path.parts destination ++ idle) =
        start.follow through left place (name :: idle) := by
  obtain ⟨-, leads⟩ := (entryAt_directory_iff formed).mp led
  rcases parts_of_lastName? last with ⟨dots, found, proper, skipped, whole⟩ | ⟨here, relative, whole⟩
  · rw [startOf_parent found proper] at leads
    obtain ⟨left, -, goes⟩ := leads.follow_append formed (isDirectoryAt_startOf formed destination)
    refine ⟨left, fun through idle => ?_⟩
    rw [whole, List.append_assoc, goes through _ (by simp), List.append_assoc, follow_dots skipped]
    rfl
  · obtain ⟨own, current⟩ := isDirectoryAt_iff.mp formed.current
    have stays : start.follow true linkLimit start.current ["."] =
        .ok (.taken start.current (.directory own)) := follow_here (by simp) current
    rw [here] at leads
    cases leads.follow_eq.symm.trans stays
    refine ⟨linkLimit, fun through idle => ?_⟩
    rw [whole, startOf, relative]
    rfl

theorem locateName_destination_iff (formed : WellFormed start) (last : lastName? destination = some name)
    (led : start.entryAt true (directoryOf destination) = .ok (place, .directory mode)) {spot : Spot} :
    start.locateName destination = .ok spot ↔
      refusedPath destination = none ∧ ¬ nameLimit < name.utf8ByteSize ∧
        spot = start.spotAt (place ++ [name]) := by
  obtain ⟨notDot, notUp, -⟩ := name_of_lastName? last
  obtain ⟨left, goes⟩ := follow_destination formed last led
  have walk := goes false []
  rw [List.append_nil] at walk
  rw [locateName, locateSteps_eq_ok_iff, leads_iff, walk, follow_last_eq_ok_iff notDot notUp]

theorem growingName_letters (number : Nat) : ∀ letter ∈ (growingName number).toList, letter ≠ '/' := by
  obtain ⟨count, letters⟩ := toList_growingName number
  intro letter member
  rw [letters] at member
  simp only [List.mem_append, List.mem_replicate] at member
  have plain : growingMark.toList.all (· != '/') = true := rfl
  rcases member with mark | ⟨_, rfl⟩ | digit
  · simpa using List.all_eq_true.mp plain letter mark
  · decide
  · rintro rfl
    exact absurd (Nat.isDigit_of_mem_toDigits (by decide) (by decide) digit) (by decide)

theorem growingName_proper (number : Nat) :
    Path.parts (growingName number) = [growingName number] ∧
      Path.isAbsolute (growingName number) = false ∧
      growingName number ≠ "." ∧ growingName number ≠ ".." := by
  obtain ⟨count, letters⟩ := toList_growingName number
  have start : ∃ rest, (growingName number).toList = '.' :: 'b' :: rest := ⟨_, letters⟩
  obtain ⟨rest, letters⟩ := start
  refine ⟨?_, ?_, ?_, ?_⟩
  · have parts := Path.parts_of_name (by simp [letters]) (growingName_letters number)
    rwa [String.ofList_toList] at parts
  · simp [Path.isAbsolute, letters]
  · intro dot
    rw [dot] at letters
    cases letters
  · intro dots
    rw [dots] at letters
    cases letters

theorem locateName_of_rename {path : String} (done : grown.rename path destination = .ok after) :
    ∃ spot, grown.locateName path = .ok spot := by
  cases located : grown.locateName path with
  | ok spot => exact ⟨spot, rfl⟩
  | error cause =>
      rw [Store.rename, located] at done
      cases done

/-- The destination has become a directory with the copy in it, and nothing else has changed. -/
structure Arrives (made : Store) (origin : Location) (destination : String) (place : Location)
    (after : Store) : Prop where
  led : after.entryAt true destination = .ok (place, .directory growingMode)
  grafts : Grafts made after place
  copies : CopiesTree made origin after place

def besideOf (store : Store) (destination : String) : String :=
  Path.join (Store.pathOf store.current) (directoryOf destination)

theorem besideOf_ne_empty (store : Store) (destination : String) : besideOf store destination ≠ "" := by
  refine Path.join_ne_empty ?_ _
  intro empty
  have letters := congrArg String.toList empty
  simp [Store.pathOf, String.toList_append] at letters

/-- What a copy is prepared from: a template that is there and a free name beside the destination. -/
structure Prepared (source destination : String) (store : Store) (copying : Copying)
    (directory : Location) (number : Nat) : Prop where
  named : copying.source = source
  before : copying.before = store
  template : ∃ entry, store.entryAt true source = .ok (copying.origin, entry)
  beside : ∃ mode, store.entryAt true (besideOf store destination) = .ok (directory, .directory mode)
  path : copying.path = Path.join (besideOf store destination) (growingName number)
  growing : copying.growing = directory ++ [growingName number]
  clear : Clear store copying.growing

theorem prepared_of_prepare (done : Copying.prepare source destination store = .ok copying) :
    ∃ directory number, Prepared source destination store copying directory number := by
  unfold Copying.prepare at done
  rw [← besideOf] at done
  dsimp only at done
  split at done
  · cases done
  · cases done
  · next origin entry directory mode began led =>
      obtain ⟨number, name, clear⟩ := freeName_spec store directory
      rw [name] at done
      cases done
      exact ⟨directory, number, rfl, rfl, ⟨entry, began⟩, ⟨mode, led⟩, by dsimp only, rfl, clear⟩
  · cases done

theorem Prepared.ready {directory : Location} {number : Nat}
    (prepared : Prepared source destination start copying directory number) (formed : WellFormed start)
    (began : start.entryAt true source = .ok (origin, .directory mode)) :
    copying.Ready ∧ copying.origin = origin := by
  obtain ⟨entry, template⟩ := prepared.template
  obtain ⟨besideMode, led⟩ := prepared.beside
  cases began.symm.trans template
  refine ⟨⟨?_, ?_, ?_, ?_, ?_⟩, rfl⟩
  · rwa [prepared.before]
  · rw [prepared.before, prepared.named]
    exact ⟨mode, began⟩
  · rw [prepared.before]
    exact prepared.clear
  · simp [prepared.growing]
  · rw [prepared.before, prepared.growing, List.dropLast_concat]
    exact isDirectoryAt_iff.mpr ⟨besideMode, get?_of_entryAt formed led⟩

theorem Prepared.locateName_growing_iff {directory : Location} {number : Nat} {spot : Spot}
    (prepared : Prepared source destination start copying directory number) (formed : WellFormed start)
    (grafts : Grafts start grown copying.growing)
    (top : grown.get? copying.growing = some (.directory growingMode)) :
    grown.locateName copying.path = .ok spot ↔
      refusedPath copying.path = none ∧ ¬ nameLimit < (growingName number).utf8ByteSize ∧
        spot = .taken copying.growing (.directory growingMode) := by
  obtain ⟨parts, relative, notDot, notUp⟩ := growingName_proper number
  obtain ⟨besideMode, led⟩ := prepared.beside
  have larger := grafts.wellFormed formed
  obtain ⟨other, kept⟩ := entryAt_keeps_directory grafts.keeps led
  obtain ⟨-, first⟩ := (entryAt_directory_iff larger).mp kept
  have proper := besideOf_ne_empty start destination
  obtain ⟨left, -, goes⟩ := first.follow_append larger (isDirectoryAt_startOf larger _)
  have samestart : grown.startOf copying.path = grown.startOf (besideOf start destination) := by
    rw [prepared.path, startOf, startOf, Path.isAbsolute_join_eq proper, relative, Bool.or_false]
  have steps : Path.parts copying.path =
      Path.parts (besideOf start destination) ++ [growingName number] := by
    rw [prepared.path, Path.parts_join relative, parts]
  rw [locateName, locateSteps_eq_ok_iff, leads_iff, samestart, steps, goes false _ (by simp),
    follow_last_eq_ok_iff notDot notUp, ← prepared.growing, spotAt, top]

/-- A copy that fails leaves the store as it was, and one that is done has been moved into place. -/
theorem grow_cases (source destination : String) (store : Store) :
    (∃ failure, (grow source destination store).value = .error failure ∧
      (grow source destination store).state = store) ∨
    ∃ copying, Copying.prepare source destination store = .ok copying ∧
      copying.copyTree.value = .ok () ∧
      (grow source destination store).value = .ok () ∧
      copying.copyTree.state.store.rename copying.path destination =
        .ok (grow source destination store).state := by
  cases prepared : Copying.prepare source destination store with
  | error cause => exact .inl ⟨.io cause, by simp [grow, prepared]⟩
  | ok copying =>
  have dropped : copying.copyTree.state.store.dropTree copying.growing = store := by
    obtain ⟨_, _, spec⟩ := prepared_of_prepare prepared
    rw [copying.copyTree_dropTree, Copying.begun, dropTree_put List.prefix_rfl, spec.before]
    exact dropTree_of_clear spec.clear
  cases complete : copying.copyTree.value with
  | error failure => exact .inl ⟨failure, by simp [grow, prepared, complete, dropped]⟩
  | ok =>
      cases moved : copying.copyTree.state.store.rename copying.path destination with
      | error cause => exact .inl ⟨.io cause, by simp [grow, prepared, complete, moved, dropped]⟩
      | ok after =>
          refine .inr ⟨copying, rfl, complete, ?_, ?_⟩ <;> simp [grow, prepared, complete, moved]

theorem grow_arrives (formed : WellFormed start) {originMode : Nat}
    (template : start.entryAt true source = .ok (origin, .directory originMode))
    (led : start.isDirectory (directoryOf destination) = true)
    (done : (grow source destination start).value = .ok ()) :
    ∃ place, Arrives start origin destination place (grow source destination start).state := by
  obtain ⟨directory, mode, led⟩ := isDirectory_iff.mp led
  rcases grow_cases source destination start with
    ⟨failure, failed, _⟩ | ⟨copying, prepared, complete, _, moved⟩
  · rw [failed] at done
    cases done
  generalize (grow source destination start).state = after at moved ⊢
  obtain ⟨beside, number, prepared⟩ := prepared_of_prepare prepared
  obtain ⟨ready, rfl⟩ := prepared.ready formed template
  have copies := ready.copyTree_copies complete
  obtain ⟨grafts, top⟩ := ready.copyTree_grafts complete
  rw [prepared.before] at copies grafts
  generalize copying.copyTree.state.store = grown at moved copies grafts top
  obtain ⟨spot, located⟩ := locateName_of_rename moved
  obtain ⟨-, -, rfl⟩ := (prepared.locateName_growing_iff formed grafts top).mp located
  obtain ⟨goal, name, found, last, grafted, shape⟩ := grafts.rename formed prepared.clear located moved
  obtain ⟨notDot, notUp, -⟩ := name_of_lastName? last
  -- The destination is the place of its last name in the directory that was led to.
  obtain ⟨other, kept⟩ := entryAt_keeps_directory grafts.keeps led
  obtain ⟨accepted, short, rfl⟩ :=
    (locateName_destination_iff (grafts.wellFormed formed) last kept).mp found
  rw [spotAt_place] at grafted shape
  have newTop : after.get? (directory ++ [name]) = some (.directory growingMode) := by
    have same := shape []
    rwa [List.append_nil, List.append_nil, top] at same
  refine ⟨directory ++ [name], ?_, grafted, ?_⟩
  · obtain ⟨other, kept⟩ := entryAt_keeps_directory grafted.keeps led
    obtain ⟨left, goes⟩ := follow_destination (grafted.wellFormed formed) last kept
    obtain ⟨idle, dots, steps⟩ := stepsOf_split destination
    refine entryAt_eq_ok_iff.mpr ⟨accepted, leads_of_follow ?_⟩
    rw [steps, goes true idle]
    exact follow_into notDot notUp short newTop dots
  · intro part proper
    rw [shape part]
    exact copies part proper

theorem makeDirectories_here (formed : WellFormed start) :
    (makeDirectories "." start).value = .ok () ∧ (makeDirectories "." start).state = start := by
  obtain ⟨mode, current⟩ := isDirectoryAt_iff.mp formed.current
  have leads : Leads start true linkLimit (start.startOf ".") (Path.parts ".")
      (.taken start.current (.directory mode)) := leads_of_follow (follow_here (by decide) current)
  have there : start.isDirectory "." = true :=
    isDirectory_iff.mpr ⟨_, _, (entryAt_directory_iff formed).mpr ⟨by decide, leads⟩⟩
  exact (ascends_ancestorsWithin _ ".").kept formed there

/-- The directories above a destination were there, or the last of them is new and empty. -/
theorem makeDirectories_fresh (formed : WellFormed start) (steady : Steady start (waysTo destination))
    (done : (makeDirectories (directoryOf destination) start).value = .ok ()) :
    (makeDirectories (directoryOf destination) start).state = start ∨
      ∃ place, NewAt start (makeDirectories (directoryOf destination) start).state
          (directoryOf destination) place ∧
        Path.parent? destination = some (directoryOf destination) ∧ directoryOf destination ≠ "" := by
  rcases directoryOf_cases destination with ⟨parent, found, proper, same⟩ | ⟨here, _⟩
  · rcases (ascends_ancestorsWithin _ (directoryOf destination)).fresh formed steady done with
      kept | ⟨place, new⟩
    · exact .inl kept
    · exact .inr ⟨place, new, same ▸ found, same ▸ proper⟩
  · rw [here]
    exact .inl (makeDirectories_here formed).2

/-- What a copy that is not done may leave: directories on the way to the destination.  The destination
is still not there, and what lies beside it is as before, unless its path goes up from a directory that
was missing. -/
structure Abandoned (start : Store) (destination : String) (after : Store) : Prop where
  makes : OnlyMakes (waysTo destination) start after
  absent : Steady start (destination :: waysTo destination) → after.isPresent destination = false
  beside : Steady start (destination :: waysTo destination) → ∀ directory entry,
    after.entryAt true (directoryOf destination) = .ok (directory, entry) →
      ∀ part ≠ [], after.get? (directory ++ part) = start.get? (directory ++ part)

theorem abandoned_of_unchanged (formed : WellFormed start)
    (absent : start.isPresent destination = false) : Abandoned start destination start :=
  ⟨.refl formed, fun _ => absent, fun _ _ _ _ _ _ => rfl⟩

theorem makeDirectories_abandoned (formed : WellFormed start)
    (absent : start.isPresent destination = false) :
    Abandoned start destination (makeDirectories (directoryOf destination) start).state := by
  have makes : OnlyMakes (waysTo destination) start
      (makeDirectories (directoryOf destination) start).state := makeFrom_onlyMakes formed
  cases outcome : (makeDirectories (directoryOf destination) start).value with
  | error failure =>
      rcases directoryOf_cases destination with ⟨parent, found, proper, same⟩ | ⟨here, _⟩
      · rw [same] at outcome makes ⊢
        have missing := (ascends_ancestorsWithin _ parent).isDirectory_of_error formed proper outcome
        refine ⟨makes, fun _ => ?_, fun _ directory entry led part inside => ?_⟩
        · refine Bool.eq_false_iff.mpr fun present => ?_
          have there := isDirectory_parent makes.formed found proper present
          exact absurd (missing.symm.trans there) (by simp)
        · have file : ¬ IsDirectoryAt (makeDirectories parent start).state directory := by
            intro holds
            rw [same] at led
            obtain ⟨mode, directory⟩ := isDirectoryAt_iff.mp holds
            cases directory.symm.trans (get?_of_entryAt makes.formed led)
            exact absurd (missing.symm.trans (isDirectory_iff.mpr ⟨_, _, led⟩)) (by simp)
          have nothing := makes.formed.below_eq_none file inside
          rw [nothing, makes.absent_before nothing]
      · rw [here, (makeDirectories_here formed).1] at outcome
        cases outcome
  | ok =>
      have ways : Steady start (destination :: waysTo destination) →
          Steady start (waysTo destination) :=
        fun steady path member => steady path (List.mem_cons_of_mem _ member)
      refine ⟨makes, fun steady => ?_, fun steady directory entry led part inside => ?_⟩
      · rcases makeDirectories_fresh formed (ways steady) outcome with
          same | ⟨place, new, found, proper⟩
        · rwa [same]
        · have named : Path.endsUp destination = false := by
            refine Bool.eq_false_iff.mpr fun up => ?_
            have there := isPresent_of_isDirectory (steady destination List.mem_cons_self up)
            exact absurd (absent.symm.trans there) (by simp)
          exact isPresent_of_empty makes.formed found proper named new.led
            fun name => new.empty [name] (by simp)
      · rcases makeDirectories_fresh formed (ways steady) outcome with same | ⟨place, new, _⟩
        · rw [same]
        · cases new.led.symm.trans led
          rw [new.empty part inside, makes.absent_before (new.empty part inside)]

theorem copyIfAbsent_of_present (source : String) (present : start.isPresent destination = true) :
    (copyIfAbsent source destination start).value = .ok false ∧
      (copyIfAbsent source destination start).state = start := by
  simp [copyIfAbsent, bind, Act.andThen, Act.read, present, Act.log, Act.note, pure, Act.done]

theorem copyIfAbsent_of_no_template (absent : start.isPresent destination = false)
    (none : start.isDirectory source = false) :
    (∃ failure, (copyIfAbsent source destination start).value = .error failure) ∧
      (copyIfAbsent source destination start).state = start := by
  simp [copyIfAbsent, bind, Act.andThen, Act.read, absent, none, throw, throwThe,
    MonadExceptOf.throw, Act.fail]

theorem copyIfAbsent_of_blocked (absent : start.isPresent destination = false)
    (template : start.isDirectory source = true) {failure : Failure}
    (blocked : (makeDirectories (directoryOf destination) start).value = .error failure) :
    (copyIfAbsent source destination start).value = .error failure ∧
      (copyIfAbsent source destination start).state =
        (makeDirectories (directoryOf destination) start).state := by
  simp [copyIfAbsent, bind, Act.andThen, Act.read, absent, template, blocked, pure]

theorem copyIfAbsent_of_made (absent : start.isPresent destination = false)
    (template : start.isDirectory source = true)
    (done : (makeDirectories (directoryOf destination) start).value = .ok ()) :
    (copyIfAbsent source destination start).value =
      (grow source destination (makeDirectories (directoryOf destination) start).state).value.map
        (fun _ => true) ∧
      (copyIfAbsent source destination start).state =
        (grow source destination (makeDirectories (directoryOf destination) start).state).state := by
  cases grew : (grow source destination
      (makeDirectories (directoryOf destination) start).state).value with
  | error failure =>
      simp [copyIfAbsent, bind, Act.andThen, Act.read, absent, template, done, grew, pure, Except.map]
  | ok =>
      simp [copyIfAbsent, bind, Act.andThen, Act.read, absent, template, done, grew, pure, Act.done,
        Except.map]

/-- What a copy that is done leaves, `made` being the store once the directories above the destination
have been made.  The template is as it was before unless the destination lies in it. -/
structure Finished (start : Store) (source destination : String) (made : Store)
    (origin place : Location) (after : Store) : Prop where
  makes : OnlyMakes (waysTo destination) start made
  began : ∃ mode, start.entryAt true source = .ok (origin, .directory mode)
  arrives : Arrives made origin destination place after
  template : Steady start (waysTo destination) →
    (∀ directory entry, made.entryAt true (directoryOf destination) = .ok (directory, entry) →
      ¬ origin <+: directory) →
    ∀ part, made.get? (origin ++ part) = start.get? (origin ++ part)

theorem grow_finished (formed : WellFormed start) (template : start.isDirectory source = true)
    (above : (makeDirectories (directoryOf destination) start).value = .ok ())
    (done : (grow source destination
      (makeDirectories (directoryOf destination) start).state).value = .ok ()) :
    ∃ origin place, Finished start source destination
      (makeDirectories (directoryOf destination) start).state origin place
      (grow source destination (makeDirectories (directoryOf destination) start).state).state := by
  obtain ⟨origin, mode, began⟩ := isDirectory_iff.mp template
  have makes : OnlyMakes (waysTo destination) start
      (makeDirectories (directoryOf destination) start).state := makeFrom_onlyMakes formed
  obtain ⟨entry, kept⟩ := entryAt_keeps_directory makes.keeps began
  have led := isDirectory_of_makeFrom formed (directoryOf_ne_empty destination) above
  obtain ⟨place, arrives⟩ := grow_arrives makes.formed kept led done
  refine ⟨origin, place, makes, ⟨mode, began⟩, arrives, fun steady apart part => ?_⟩
  rcases makeDirectories_fresh formed steady above with same | ⟨directory, new, _⟩
  · rw [same]
  · by_cases same : (makeDirectories (directoryOf destination) start).state.get? (origin ++ part) =
        start.get? (origin ++ part)
    · exact same
    · -- All that is new lies on the way to the destination, and so would the template.
      have within := (List.prefix_append origin part).trans (new.new _ same)
      exact absurd within (apart directory _ new.led)

/-- A copy is skipped exactly where the destination is there.  One that fails leaves no destination
behind, and one that is done has copied the whole template and changed nothing else. -/
theorem copyIfAbsent_all_or_nothing (formed : WellFormed start) (source destination : String) :
    ((copyIfAbsent source destination start).value = .ok false ↔
      start.isPresent destination = true) ∧
    ((copyIfAbsent source destination start).value = .ok false →
      (copyIfAbsent source destination start).state = start) ∧
    (∀ failure, (copyIfAbsent source destination start).value = .error failure →
      Abandoned start destination (copyIfAbsent source destination start).state) ∧
    ((copyIfAbsent source destination start).value = .ok true → ∃ made origin place,
      Finished start source destination made origin place
        (copyIfAbsent source destination start).state) := by
  cases present : start.isPresent destination with
  | true =>
      obtain ⟨value, state⟩ := copyIfAbsent_of_present source present
      simp [value, state]
  | false =>
  cases template : start.isDirectory source with
  | false =>
      obtain ⟨⟨failure, value⟩, state⟩ := copyIfAbsent_of_no_template present template
      simp [value, state, abandoned_of_unchanged formed present]
  | true =>
  have abandoned := makeDirectories_abandoned formed present
  cases above : (makeDirectories (directoryOf destination) start).value with
  | error failure =>
      obtain ⟨value, state⟩ := copyIfAbsent_of_blocked present template above
      simp [value, state, abandoned]
  | ok =>
  obtain ⟨value, state⟩ := copyIfAbsent_of_made present template above
  cases grew : (grow source destination
      (makeDirectories (directoryOf destination) start).state).value with
  | error failure =>
      rcases grow_cases source destination (makeDirectories (directoryOf destination) start).state with
        ⟨_, _, same⟩ | ⟨_, _, _, done, _⟩
      · rw [same] at state
        simp [value, state, grew, abandoned, Except.map]
      · rw [grew] at done
        cases done
  | ok =>
      have finished := grow_finished formed template above grew
      rw [← state] at finished
      rw [grew] at value
      simp only [value, Except.map]
      exact ⟨by simp, by simp, by simp, fun _ => ⟨_, finished⟩⟩

/-- A template with a directory and a link in it. -/
def templates (target : String) : Store :=
  { entries := [
      (["tpl"], .directory directoryMode),
      (["tpl", "main.tf"], .file "tf".toUTF8 fileMode),
      (["tpl", "modules"], .directory directoryMode),
      (["tpl", "modules", "net.tf"], .link target)]
    current := [] }

/-- A link to a file is copied, and a link to nothing leaves no copy. -/
theorem templates_copied :
    ((copyIfAbsent "tpl" "gen/out" (templates "../main.tf")).value = .ok true ∧
      ∃ made origin place, Finished (templates "../main.tf") "tpl" "gen/out" made origin place
        (copyIfAbsent "tpl" "gen/out" (templates "../main.tf")).state) ∧
    (copyIfAbsent "tpl" "gen/out" (templates "../no.tf")).value = .error (.io .notFound) ∧
      (copyIfAbsent "tpl" "gen/out" (templates "../no.tf")).state.isPresent "gen/out" = false := by
  have formed : WellFormed (templates "../main.tf") := by decide
  have formedBroken : WellFormed (templates "../no.tf") := by decide
  have done : (copyIfAbsent "tpl" "gen/out" (templates "../main.tf")).value = .ok true := rfl
  have failed : (copyIfAbsent "tpl" "gen/out" (templates "../no.tf")).value =
      .error (.io .notFound) := rfl
  obtain ⟨-, -, -, finished⟩ := copyIfAbsent_all_or_nothing formed "tpl" "gen/out"
  obtain ⟨-, -, abandoned, -⟩ := copyIfAbsent_all_or_nothing formedBroken "tpl" "gen/out"
  have steady : Steady (templates "../no.tf") ("gen/out" :: waysTo "gen/out") := by decide
  exact ⟨⟨done, finished done⟩, failed, (abandoned _ failed).absent steady⟩

/-- A template beside the directory of an earlier run. -/
def usedBuild : Store :=
  { entries := [
      (["tpl"], .directory directoryMode),
      (["build"], .directory directoryMode),
      (["build", "state.tf"], .file "state".toUTF8 fileMode)]
    current := [] }

/-- A path that goes up from a missing directory comes to be there when that directory is made. -/
theorem usedBuild_found :
    WellFormed usedBuild ∧ usedBuild.isPresent "gen/../build" = false ∧
      (copyIfAbsent "tpl" "gen/../build" usedBuild).value = .error (.io .notEmpty) ∧
      (copyIfAbsent "tpl" "gen/../build" usedBuild).state.isPresent "gen/../build" = true :=
  ⟨by decide, by decide, rfl, by decide⟩

end Groundwork.Staging
