import Groundwork.Proofs.Json.Reading
import Groundwork.Proofs.Json.RoundTrip
import Groundwork.Proofs.Store.Directories
import Groundwork.Proofs.Store.Files
import Groundwork.Staging.Variables

namespace Groundwork.Staging

open Store

/-! Updates of a file of variables.

An update merges its values over the object that a file holds.  What it writes is the one text of the
merged object, so later updates start from that object, and two of them come to one.
-/

variable {store : Store} {path : String} {stored values : Table Json.Value}

/-- The text at the path parses to the object. -/
def Reads (store : Store) (path : String) (members : Table Json.Value) : Prop :=
  ∃ text, store.readText path = .ok text ∧ Json.read text = some (.object members)

/-- The store once the directories above a path have been made. -/
def prepared (path : String) (store : Store) : Store :=
  (makeDirectories ((Path.parent? path).getD "") store).state

/-- What an update starts from: the object of a file, or none where neither a file nor a device is. -/
inductive Holds (store : Store) (path : String) : Table Json.Value → Prop
  | absent (missing : store.isPresent path = false)
      (plain : ∀ place, (prepared path store).entryAt true path ≠ .ok (place, .sink)) :
      Holds store path []
  | object {members : Table Json.Value} (reads : Reads store path members) : Holds store path members

/-- Only a file holds an object; what is read from a device is no object. -/
theorem Reads.entry (reads : Reads store path stored) :
    ∃ place bytes mode, store.entryAt true path = .ok (place, .file bytes mode) := by
  obtain ⟨text, read, object⟩ := reads
  unfold Store.readText readBytes at read
  cases found : store.entryAt true path with
  | error cause => simp [found] at read
  | ok located =>
      obtain ⟨place, entry⟩ := located
      cases entry with
      | file bytes mode => exact ⟨place, bytes, mode, rfl⟩
      | sink =>
          rw [found] at read
          cases read
          cases object
      | directory mode => simp [found] at read
      | link target => simp [found] at read

theorem Reads.isPresent (reads : Reads store path stored) : store.isPresent path = true := by
  obtain ⟨place, bytes, mode, found⟩ := reads.entry
  exact isPresent_iff.mpr ⟨place, _, found⟩

theorem Reads.unique {other : Table Json.Value} (reads : Reads store path stored)
    (readsOther : Reads store path other) : stored = other := by
  obtain ⟨text, read, object⟩ := reads
  obtain ⟨textOther, readOther, objectOther⟩ := readsOther
  cases read.symm.trans readOther
  cases object.symm.trans objectOther
  rfl

theorem Reads.within (reads : Reads store path stored) :
    (Json.Value.object stored).Within Json.depthLimit := by
  obtain ⟨text, _, object⟩ := reads
  exact Json.within_of_read object

theorem Holds.within (holds : Holds store path stored) :
    (Json.Value.object stored).Within Json.depthLimit := by
  cases holds with
  | absent => exact Json.within_object (show 0 < 127 by decide) (List.forall_mem_nil _)
  | object reads => exact reads.within

theorem storedVariables_of_missing (missing : store.isPresent path = false) :
    storedVariables path store = ⟨.ok [], store, []⟩ := by
  simp [storedVariables, bind, Act.andThen, Act.read, missing, pure, Act.done]

theorem storedVariables_of_holds (holds : Holds store path stored) :
    storedVariables path store = ⟨.ok stored, store, []⟩ := by
  cases holds with
  | absent missing => exact storedVariables_of_missing missing
  | object reads =>
      have present := reads.isPresent
      obtain ⟨text, read, object⟩ := reads
      simp [storedVariables, bind, Act.andThen, Act.read, present, Act.look, read, object, pure,
        Act.done]

theorem storedVariables_of_other (present : store.isPresent path = true)
    (other : ∀ members, ¬ Reads store path members) :
    ∃ failure, (storedVariables path store).value = .error failure ∧
      (storedVariables path store).state = store := by
  cases read : store.readText path with
  | error cause =>
      simp [storedVariables, bind, Act.andThen, Act.read, present, Act.look, read]
  | ok text =>
      cases parsed : Json.read text with
      | none =>
          simp [storedVariables, bind, Act.andThen, Act.read, present, Act.look, read, parsed,
            throw, throwThe, MonadExceptOf.throw, Act.fail]
      | some value =>
          cases value with
          | object members => exact absurd ⟨text, read, parsed⟩ (other members)
          | _ =>
              simp [storedVariables, bind, Act.andThen, Act.read, present, Act.look, read, parsed,
                throw, throwThe, MonadExceptOf.throw, Act.fail]

theorem updateVariables_of_other (present : store.isPresent path = true)
    (other : ∀ members, ¬ Reads store path members) (values : Table Json.Value) :
    (∃ failure, (updateVariables path values store).value = .error failure) ∧
      (updateVariables path values store).state = store := by
  obtain ⟨failure, value, state⟩ := storedVariables_of_other present other
  simp [updateVariables, bind, Act.andThen, value, state]

theorem updateVariables_of_ready (start : storedVariables path store = ⟨.ok stored, store, []⟩)
    (above : (makeDirectories ((Path.parent? path).getD "") store).value = .ok ())
    {goal : Option (Location × Nat)} (found : (prepared path store).placeFor path = .ok goal)
    (values : Table Json.Value) :
    (updateVariables path values store).value = .ok () ∧
      (updateVariables path values store).state =
        putAt (variablesText (Table.merge stored values)).toUTF8 (prepared path store) goal := by
  rw [prepared] at found ⊢
  simp [updateVariables, bind, Act.andThen, start, Act.log, Act.note, above, Act.change, writeText,
    writeBytes_eq, found, Except.map]

theorem updateVariables_cases (holds : Holds store path stored) :
    (∃ failure, ∀ values, (updateVariables path values store).value = .error failure) ∨
    (makeDirectories ((Path.parent? path).getD "") store).value = .ok () ∧
      ∃ goal, (prepared path store).placeFor path = .ok goal := by
  have start := storedVariables_of_holds holds
  cases above : (makeDirectories ((Path.parent? path).getD "") store).value with
  | error failure =>
      refine .inl ⟨failure, fun values => ?_⟩
      simp [updateVariables, bind, Act.andThen, start, Act.log, Act.note, above]
  | ok =>
      cases goal : (prepared path store).placeFor path with
      | ok target => exact .inr ⟨rfl, target, rfl⟩
      | error cause =>
          refine .inl ⟨.io cause, fun values => ?_⟩
          rw [prepared] at goal
          simp [updateVariables, bind, Act.andThen, start, Act.log, Act.note, above, Act.change,
            writeText, writeBytes_eq, goal, Except.map]

theorem prepared_of_isPresent (formed : WellFormed store) (present : store.isPresent path = true) :
    prepared path store = store :=
  (makeDirectories_above formed present).2

theorem updateVariables_of_reads (formed : WellFormed store) (reads : Reads store path stored) :
    ∃ place mode, (∃ bytes, store.entryAt true path = .ok (place, .file bytes mode)) ∧
      ∀ values, (updateVariables path values store).value = .ok () ∧
        (updateVariables path values store).state =
          store.put place (.file (variablesText (Table.merge stored values)).toUTF8 mode) := by
  obtain ⟨place, bytes, mode, entry⟩ := reads.entry
  obtain ⟨above, same⟩ := makeDirectories_above formed reads.isPresent
  have found : (prepared path store).placeFor path = .ok (some (place, mode)) := by
    rw [prepared, same]
    exact placeFor_of_file formed entry
  refine ⟨place, mode, ⟨bytes, entry⟩, fun values => ?_⟩
  have start := storedVariables_of_holds (.object reads)
  have writes := updateVariables_of_ready start above found values
  rwa [prepared, same] at writes

/-- A done update has written the merged object to a file, and so would any other have. -/
theorem updateVariables_done (formed : WellFormed store) (holds : Holds store path stored)
    (done : (updateVariables path values store).value = .ok ()) :
    ∃ place mode,
      Written path (variablesText (Table.merge stored values)).toUTF8 place mode
        (updateVariables path values store).state ∧
      ∀ others, (updateVariables path others store).value = .ok () ∧
        (updateVariables path others store).state = (prepared path store).put place
          (.file (variablesText (Table.merge stored others)).toUTF8 mode) := by
  rcases updateVariables_cases holds with ⟨failure, failed⟩ | ⟨above, goal, found⟩
  · rw [failed values] at done
    cases done
  have writes := updateVariables_of_ready (storedVariables_of_holds holds) above found
  cases goal with
  | none =>
      obtain ⟨place, device⟩ := placeFor_eq_none found
      cases holds with
      | absent _ plain => exact absurd device (plain place)
      | object reads =>
          obtain ⟨_, _, _, entry⟩ := reads.entry
          rw [prepared_of_isPresent formed reads.isPresent, entry] at device
          cases device
  | some target =>
      obtain ⟨place, mode⟩ := target
      have ready : WellFormed (prepared path store) := (makeFrom_onlyMakes formed).formed
      refine ⟨place, mode, ?_, writes⟩
      rw [(writes values).2]
      exact written_put ready found _

theorem reads_of_written {after : Store} {place : Location} {mode : Nat} {members : Table Json.Value}
    (plain : (Json.Value.object members).Plain)
    (written : Written path (variablesText members).toUTF8 place mode after) :
    Reads after path members :=
  ⟨_, written.readText, Json.read_pretty_of_plain plain⟩

theorem Holds.plain (holds : Holds store path stored) (exact : (Json.Value.object stored).FloatFree) :
    (Json.Value.object stored).Plain :=
  ⟨holds.within.exact exact, holds.within.nesting⟩

theorem updateVariables_again (formed : WellFormed store) (holds : Holds store path stored)
    (plain : (Json.Value.object stored).Plain) (plainValues : (Json.Value.object values).Plain)
    (done : (updateVariables path values store).value = .ok ()) (later : Table Json.Value) :
    (updateVariables path later (updateVariables path values store).state).value = .ok () ∧
      (updateVariables path later (updateVariables path values store).state).state =
        (updateVariables path (Table.merge values later) store).state := by
  obtain ⟨place, mode, written, writes⟩ := updateVariables_done formed holds done
  have reads := reads_of_written (Json.plain_merge plain plainValues) written
  obtain ⟨_, _, ⟨_, entry⟩, writesAgain⟩ := updateVariables_of_reads written.formed reads
  cases written.entry.symm.trans entry
  refine ⟨(writesAgain later).1, ?_⟩
  have sorted := (Json.plain_object_iff.mp plain).1
  have sortedValues := (Json.plain_object_iff.mp plainValues).1
  rw [(writesAgain later).2, (writes values).2, (writes _).2, put_put,
    Table.merge_merge sorted sortedValues]

/-- Values nested past the limit are written, but no update after that can read them. -/
theorem updateVariables_deep (formed : WellFormed store) (holds : Holds store path [])
    (exact : (Json.Value.object values).Exact)
    (deep : Json.depthLimit ≤ (Json.Value.object values).nesting)
    (done : (updateVariables path values store).value = .ok ()) (later : Table Json.Value) :
    ∃ failure,
      (updateVariables path later (updateVariables path values store).state).value = .error failure := by
  obtain ⟨place, mode, written, _⟩ := updateVariables_done formed holds done
  have whole : Table.merge [] values = values := Table.Sorted.ofList_eq exact.1
  rw [whole] at written
  have unread : Json.read (variablesText values) = none := by
    rw [variablesText, Json.read_pretty exact, if_neg (by omega)]
  have other : ∀ members, ¬ Reads (updateVariables path values store).state path members := by
    rintro members ⟨text, read, object⟩
    cases written.readText.symm.trans read
    cases unread.symm.trans object
  have present := isPresent_iff.mpr ⟨_, _, written.entry⟩
  exact (updateVariables_of_other present other later).1

/-- The bytes that an update writes depend on the merged object alone. -/
theorem readBytes_update_congr {other : Store} {otherPath : String}
    {otherStored otherValues : Table Json.Value} (formed : WellFormed store)
    (formedOther : WellFormed other) (holds : Holds store path stored)
    (holdsOther : Holds other otherPath otherStored)
    (same : ∀ key, Table.get? key (Table.merge stored values) =
      Table.get? key (Table.merge otherStored otherValues))
    (done : (updateVariables path values store).value = .ok ())
    (doneOther : (updateVariables otherPath otherValues other).value = .ok ()) :
    (updateVariables path values store).state.readBytes path =
      (updateVariables otherPath otherValues other).state.readBytes otherPath := by
  have sorted := (holds.within.sorted _ rfl).merge values
  have sortedOther := (holdsOther.within.sorted _ rfl).merge otherValues
  obtain ⟨_, _, written, _⟩ := updateVariables_done formed holds done
  obtain ⟨_, _, writtenOther, _⟩ := updateVariables_done formedOther holdsOther doneOther
  rw [written.readBytes, writtenOther.readBytes, sorted.ext sortedOther same]

/-- Updates merge their values over the object of a file, and two of them come to one.  A file that
holds no object is refused. -/
theorem updates_merge (formed : WellFormed store) (path : String) :
    (store.isPresent path = true → (∀ members, ¬ Reads store path members) → ∀ values,
      (∃ failure, (updateVariables path values store).value = .error failure) ∧
        (updateVariables path values store).state = store) ∧
    ∀ stored, Holds store path stored →
      (∀ values, store.isPresent path = true → (updateVariables path values store).value = .ok ()) ∧
      ∀ values, (updateVariables path values store).value = .ok () →
        (∀ others, (updateVariables path others store).value = .ok ()) ∧
        (∀ other otherPath otherStored otherValues,
          WellFormed other → Holds other otherPath otherStored →
          (∀ key, Table.get? key (Table.merge stored values) =
            Table.get? key (Table.merge otherStored otherValues)) →
          (updateVariables otherPath otherValues other).value = .ok () →
          (updateVariables path values store).state.readBytes path =
            (updateVariables otherPath otherValues other).state.readBytes otherPath) ∧
        ((Json.Value.object stored).FloatFree → (Json.Value.object values).Plain →
          (∃ merged, Reads (updateVariables path values store).state path merged ∧
            ∀ key, Table.get? key merged = (Table.get? key values).or (Table.get? key stored)) ∧
          ∀ later,
            (updateVariables path later (updateVariables path values store).state).value = .ok () ∧
            (updateVariables path later (updateVariables path values store).state).state =
              (updateVariables path (Table.merge values later) store).state) := by
  refine ⟨fun present other values => updateVariables_of_other present other values,
    fun stored holds => ⟨fun values present => ?_, fun values done => ⟨?_, ?_, ?_⟩⟩⟩
  · cases holds with
    | absent missing =>
        rw [missing] at present
        cases present
    | object reads =>
        obtain ⟨_, _, _, writes⟩ := updateVariables_of_reads formed reads
        exact (writes values).1
  · obtain ⟨_, _, _, writes⟩ := updateVariables_done formed holds done
    exact fun others => (writes others).1
  · intro other otherPath otherStored otherValues formedOther holdsOther same doneOther
    exact readBytes_update_congr formed formedOther holds holdsOther same done doneOther
  · intro free plainValues
    have plain := holds.plain free
    obtain ⟨_, _, written, _⟩ := updateVariables_done formed holds done
    refine ⟨⟨_, reads_of_written (Json.plain_merge plain plainValues) written, fun key => ?_⟩,
      updateVariables_again formed holds plain plainValues done⟩
    rw [Table.get?_merge, Table.get?_ofList (Json.plain_object_iff.mp plainValues).1]

def zones : Table Json.Value :=
  [("count", .array [.integer 1, .object [("x", .null)]]), ("zone", .string "us\"\n")]

/-- A file of variables, and one that holds a list. -/
def variableFiles : Store :=
  { entries := [
      (["cfg"], .directory directoryMode),
      (["cfg", "a.json"], .file (variablesText zones).toUTF8 0o600),
      (["cfg", "b.json"], .file "[1]".toUTF8 fileMode)]
    current := ["cfg"] }

theorem zones_plain : (Json.Value.object zones).Plain := by
  constructor
  · simp only [zones, Json.Value.Exact, Json.MembersExact, Json.ItemsExact]
    decide
  · decide

theorem zones_floatFree : (Json.Value.object zones).FloatFree := by
  simp [zones, Json.Value.FloatFree, Json.MembersFloatFree, Json.ItemsFloatFree]

theorem variableFiles_formed : WellFormed variableFiles := by decide

theorem variableFiles_reads : Reads variableFiles "a.json" zones := by
  have found : variableFiles.entryAt true "a.json" =
    .ok (["cfg", "a.json"], .file (variablesText zones).toUTF8 0o600) := rfl
  exact reads_of_written zones_plain ⟨variableFiles_formed, found⟩

/-- The list is left alone, the variables get another count, and a new file with what they come to has
the same bytes. -/
theorem variableFiles_updated :
    ((∃ failure, (updateVariables "b.json" [] variableFiles).value = .error failure) ∧
      (updateVariables "b.json" [] variableFiles).state = variableFiles) ∧
    (updateVariables "a.json" [("count", .integer (-5))] variableFiles).value = .ok () ∧
    (∃ merged, Reads (updateVariables "a.json" [("count", .integer (-5))] variableFiles).state
      "a.json" merged ∧ Table.get? "zone" merged = Table.get? "zone" zones) ∧
    (updateVariables "a.json" [("count", .integer (-5))] variableFiles).state.readBytes "a.json" =
      (updateVariables "new/c.json" [("zone", .string "us\"\n"), ("count", .integer (-5))]
        variableFiles).state.readBytes "new/c.json" := by
  have list : Json.read "[1]" = some (.array [.integer 1]) := by
    have found : Json.readValue (2 * "[1]".toList.length + 2) Json.depthLimit "[1]".toList =
      some (.array [.integer 1], []) := rfl
    rw [Json.read, found]
    rfl
  have listRead : variableFiles.readText "b.json" = .ok "[1]" := by
    have found : variableFiles.entryAt true "b.json" =
      .ok (["cfg", "b.json"], .file "[1]".toUTF8 fileMode) := rfl
    simp only [Store.readText, readBytes, found, read?_toUTF8]
  have absent : Holds variableFiles "new/c.json" [] := by
    have missing : (prepared "new/c.json" variableFiles).entryAt true "new/c.json" =
      .error .notFound := rfl
    refine .absent rfl fun place device => ?_
    rw [missing] at device
    cases device
  have notObject : ∀ members, ¬ Reads variableFiles "b.json" members := by
    rintro members ⟨text, read, object⟩
    cases listRead.symm.trans read
    cases list.symm.trans object
  have plain : (Json.Value.object [("count", .integer (-5))]).Plain := by
    constructor
    · simp only [Json.Value.Exact, Json.MembersExact]
      decide
    · decide
  obtain ⟨refused, -⟩ := updates_merge variableFiles_formed "b.json"
  obtain ⟨-, merges⟩ := updates_merge variableFiles_formed "a.json"
  obtain ⟨succeeds, after⟩ := merges zones (.object variableFiles_reads)
  have done := succeeds [("count", .integer (-5))] rfl
  obtain ⟨-, same, reading⟩ := after _ done
  obtain ⟨⟨merged, readsMerged, found⟩, -⟩ := reading zones_floatFree plain
  refine ⟨refused rfl notObject [], done, ⟨merged, readsMerged, found "zone"⟩, ?_⟩
  refine same _ _ _ _ variableFiles_formed absent (fun key => ?_) rfl
  rfl

end Groundwork.Staging
