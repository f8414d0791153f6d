import Groundwork.Proofs.Store.Walk
import Groundwork.Store.Files

namespace Groundwork.Store

/-! What is written to a path is read from it again, and nothing else changes.

`placeFor` is where the bytes go that are written to a path.  It is fixed by the store alone, and
writing keeps it, so a second write takes the place of the first one.
-/

variable {store : Store} {place here : Location} {entry : Entry} {bytes : ByteArray} {mode : Nat}
  {steps : List String} {links : Nat} {path : String} {spot : Spot}

/-- No walk goes on behind the place. -/
def IsEnd (store : Store) (place : Location) : Prop :=
  ∀ entry, store.get? place = some entry → entry.isDirectory = false ∧ entry.isLink = false

theorem IsEnd.ne_nil (last : IsEnd store place) : place ≠ [] := by
  rintro rfl
  exact absurd (last _ get?_root).1 (by decide)

theorem isEnd_of_file (found : store.get? place = some (.file bytes mode)) : IsEnd store place := by
  intro entry same
  cases found.symm.trans same
  exact ⟨rfl, rfl⟩

theorem isEnd_of_absent (absent : store.get? place = none) : IsEnd store place := by
  intro entry found
  rw [absent] at found
  cases found

def Progress.rewritten (place : Location) (entry : Entry) : Progress → Progress
  | .arrived other old => .arrived other (if other = place then entry else old)
  | .missing other => if other = place then .arrived other entry else .missing other
  | .linked directory target rest => .linked directory target rest

def Spot.rewritten (place : Location) (entry : Entry) : Spot → Spot
  | .taken other old => .taken other (if other = place then entry else old)
  | .vacant other => if other = place then .taken other entry else .vacant other

theorem advance_put (last : IsEnd store place) {progress : Progress}
    (came : store.advance true here steps = .ok progress) :
    (store.put place (.file bytes mode)).advance true here steps =
      .ok (progress.rewritten place (.file bytes mode)) := by
  have get (other : Location) := get?_put store place other (.file bytes mode) last.ne_nil
  have walks := walks_iff.mpr came
  clear came
  refine walks_iff.mp ?_
  induction walks with
  | here found => exact .here (by rw [get, found]; split <;> rfl)
  | dot _ ih => exact .dot ih
  | up _ ih => exact .up ih
  | @missing here name looked absent =>
      by_cases same : here ++ [name] = place
      · rw [Progress.rewritten, if_pos same]
        exact .arrived looked (by rw [get, if_pos same]) rfl fun _ => by contradiction
      · rw [Progress.rewritten, if_neg same]
        exact .missing looked (by rw [get, if_neg same, absent])
  | @into here name _ _ _ looked found _ ih =>
      have elsewhere : here ++ [name] ≠ place := fun same => by cases (last _ (same ▸ found)).1
      exact .into looked (by rw [get, if_neg elsewhere, found]) ih
  | @linked here name _ _ looked found follows =>
      have elsewhere : here ++ [name] ≠ place := fun same => by cases (last _ (same ▸ found)).2
      exact .linked looked (by rw [get, if_neg elsewhere, found]) follows
  | @arrived here name entry looked found leaf stays =>
      by_cases same : here ++ [name] = place
      · rw [Progress.rewritten, if_pos same]
        exact .arrived looked (by rw [get, if_pos same]) rfl fun _ => by contradiction
      · rw [Progress.rewritten, if_neg same]
        exact .arrived looked (by rw [get, if_neg same, found]) leaf stays

theorem Leads.put (last : IsEnd store place) (leads : Leads store true links here steps spot) :
    Leads (store.put place (.file bytes mode)) true links here steps
      (spot.rewritten place (.file bytes mode)) := by
  induction leads with
  | arrived came => exact .arrived (advance_put last came)
  | @missing links here other steps came =>
      have moved : (store.put place (.file bytes mode)).advance true here steps = _ :=
        advance_put last came
      by_cases same : other = place
      · rw [Progress.rewritten, if_pos same] at moved
        rw [Spot.rewritten, if_pos same]
        exact .arrived moved
      · rw [Progress.rewritten, if_neg same] at moved
        rw [Spot.rewritten, if_neg same]
        exact .missing moved
  | linked came _ ih => exact .linked (advance_put last came) ih

/-- The place that bytes written to a path go to, with the permissions of the file there; none when
nothing keeps them. -/
def placeFor (path : String) (store : Store) : Except IoCause (Option (Location × Nat)) :=
  match store.locateForWriting path with
  | .error cause => .error cause
  | .ok (.vacant place) => .ok (some (place, fileMode))
  | .ok (.taken place (.file _ mode)) => .ok (some (place, mode))
  | .ok (.taken _ .sink) => .ok none
  | .ok (.taken _ (.directory _)) => .error .isDirectory
  | .ok (.taken _ (.link _)) => .error .linkLoop

def putAt (bytes : ByteArray) (store : Store) : Option (Location × Nat) → Store
  | some (place, mode) => store.put place (.file bytes mode)
  | none => store

theorem writeBytes_eq (bytes : ByteArray) (path : String) (store : Store) :
    store.writeBytes bytes path = (store.placeFor path).map (putAt bytes store) := by
  unfold writeBytes changeBytes placeFor
  cases store.locateForWriting path with
  | error cause => rfl
  | ok spot =>
      cases spot with
      | vacant place => rfl
      | taken place entry => cases entry <;> rfl

/-- Whether a path may be written to at all is seen from the path. -/
theorem locateForWriting_of_ok (located : store.locateForWriting path = .ok spot) (other : Store) :
    other.locateForWriting path = other.locate true path := by
  unfold locateForWriting at located ⊢
  split at located
  · split at located <;> cases located
  · rfl

theorem locateForWriting_eq_ok (located : store.locateForWriting path = .ok spot) :
    refusedPath path = none ∧
      Leads store true linkLimit (store.startOf path) (stepsOf path) spot := by
  rw [locateForWriting_of_ok located] at located
  exact locateSteps_eq_ok_iff.mp located

theorem placeFor_eq_some (found : store.placeFor path = .ok (some (place, mode))) :
    ∃ spot, store.locateForWriting path = .ok spot ∧ spot.place = place ∧
      ((spot = .vacant place ∧ mode = fileMode) ∨ ∃ bytes, spot = .taken place (.file bytes mode)) := by
  unfold placeFor at found
  split at found <;> cases found
  · next located => exact ⟨_, located, rfl, .inl ⟨rfl, rfl⟩⟩
  · next located => exact ⟨_, located, rfl, .inr ⟨_, rfl⟩⟩

theorem placeFor_eq_none (found : store.placeFor path = .ok none) :
    ∃ place, store.entryAt true path = .ok (place, .sink) := by
  unfold placeFor at found
  split at found <;> cases found
  next place located =>
    obtain ⟨accepted, leads⟩ := locateForWriting_eq_ok located
    exact ⟨place, entryAt_eq_ok_iff.mpr ⟨accepted, leads⟩⟩

theorem endsInSlash_of_entry (formed : WellFormed store)
    (found : store.entryAt true path = .ok (place, entry)) (plain : entry.isDirectory = false) :
    Path.endsInSlash path = false := by
  refine Bool.eq_false_iff.mpr fun slash => ?_
  obtain ⟨_, leads⟩ := entryAt_eq_ok_iff.mp found
  rw [stepsOf, if_pos slash] at leads
  obtain ⟨before, mode, first⟩ :=
    leads.directory_before formed (by simp) (isDirectoryAt_startOf formed path)
  obtain ⟨left, -, goes⟩ := first.follow_append formed (isDirectoryAt_startOf formed path)
  have there : store.get? before = some (.directory mode) :=
    first.sound formed (isDirectoryAt_startOf formed path)
  have walked := leads.follow_eq
  rw [goes true _ (by simp), follow_here (by simp) there] at walked
  cases walked
  cases plain

theorem placeFor_of_file (formed : WellFormed store)
    (found : store.entryAt true path = .ok (place, .file bytes mode)) :
    store.placeFor path = .ok (some (place, mode)) := by
  have noSlash := endsInSlash_of_entry formed found rfl
  have located : store.locateForWriting path = .ok (.taken place (.file bytes mode)) := by
    rw [locateForWriting, noSlash]
    exact locateSteps_eq_ok_iff.mpr (entryAt_eq_ok_iff.mp found)
  rw [placeFor, located]

/-- What a path is like once it has been written to. -/
structure Written (path : String) (bytes : ByteArray) (place : Location) (mode : Nat) (after : Store) :
    Prop where
  formed : WellFormed after
  entry : after.entryAt true path = .ok (place, .file bytes mode)

theorem written_put (formed : WellFormed store)
    (found : store.placeFor path = .ok (some (place, mode))) (bytes : ByteArray) :
    Written path bytes place mode (store.put place (.file bytes mode)) := by
  obtain ⟨spot, located, at_place, how⟩ := placeFor_eq_some found
  obtain ⟨accepted, leads⟩ := locateForWriting_eq_ok located
  have seen := leads.sound formed (isDirectoryAt_startOf formed path)
  have last : IsEnd store place ∧ IsDirectoryAt store place.dropLast := by
    rcases how with ⟨rfl, -⟩ | ⟨old, rfl⟩
    · exact ⟨isEnd_of_absent seen.1, seen.2⟩
    · have member := mem_of_get? (isEnd_of_file seen).ne_nil seen
      exact ⟨isEnd_of_file seen, formed.rooted _ member⟩
  have there : Leads (store.put place (.file bytes mode)) true linkLimit (store.startOf path)
      (stepsOf path) (.taken place (.file bytes mode)) := by
    have moved : Leads (store.put place (.file bytes mode)) true linkLimit _ _ _ := leads.put last.1
    rcases how with ⟨rfl, -⟩ | ⟨old, rfl⟩
    · rwa [Spot.rewritten, if_pos rfl] at moved
    · rwa [Spot.rewritten, if_pos rfl] at moved
  have free : IsDirectoryAt store place → (Entry.file bytes mode).isDirectory = true := by
    intro directory
    obtain ⟨own, present⟩ := isDirectoryAt_iff.mp directory
    cases (last.1 _ present).1
  exact ⟨formed.put last.1.ne_nil free last.2, entryAt_eq_ok_iff.mpr ⟨accepted, there⟩⟩

theorem Written.readBytes {after : Store} (written : Written path bytes place mode after) :
    after.readBytes path = .ok bytes := by
  simp only [Store.readBytes, written.entry]

theorem read?_toUTF8 (text : String) : Text.Utf8.read? text.toUTF8 = some text :=
  dif_pos text.isValidUTF8

theorem Written.readText {text : String} {after : Store}
    (written : Written path text.toUTF8 place mode after) : after.readText path = .ok text := by
  simp only [Store.readText, written.readBytes, read?_toUTF8]

end Groundwork.Store
