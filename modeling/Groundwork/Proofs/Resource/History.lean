import Mathlib.Data.List.Nodup
import Groundwork.Resource.Guard

namespace Groundwork.Guard

/-! What a guard does to a platform over time.

A platform holds names.  Operations on it come in any order: resources are ensured and taken away, and
listing begins or ceases to fail.  Every call that the guard makes is kept.
-/

universe u

section

variable {σ : Type u} {listing : Act σ (List String)} {name : String} {state : σ}

def IsListedAt (listing : Act σ (List String)) (name : String) (state : σ) : Prop :=
  ∃ names, (listing state).value = .ok names ∧ name ∈ names

theorem isListed_value (listing : Act σ (List String)) (name : String) (state : σ) :
    ∃ listed, (isListed listing name state).value = .ok listed ∧
      (listed = true ↔ IsListedAt listing name state) := by
  cases listed : (listing state).value with
  | error failure => exact ⟨false, by simp [isListed, listed], by simp [IsListedAt, listed]⟩
  | ok names => exact ⟨names.contains name, by simp [isListed, listed], by simp [IsListedAt, listed]⟩

theorem isListed_state (listing : Act σ (List String)) (name : String) (state : σ) :
    (isListed listing name state).state = (listing state).state := by
  cases listed : (listing state).value <;> simp [isListed, listed]

theorem ensure_of_listed (create : Act σ Unit) (listed : IsListedAt listing name state) :
    (ensure listing name create state).value = .ok .alreadyPresent ∧
      (ensure listing name create state).state = (listing state).state := by
  obtain ⟨found, value, same⟩ := isListed_value listing name state
  rw [same.mpr listed] at value
  simp [ensure, Act.andThen, value, isListed_state, Act.log, Act.note, Act.done]

theorem ensure_of_unlisted (create : Act σ Unit) (unlisted : ¬ IsListedAt listing name state) :
    (ensure listing name create state).value =
        (create (listing state).state).value.map (fun _ => .initialized) ∧
      (ensure listing name create state).state = (create (listing state).state).state := by
  obtain ⟨found, value, same⟩ := isListed_value listing name state
  have missing : found = false := Bool.eq_false_iff.mpr fun listed => unlisted (same.mp listed)
  rw [missing] at value
  cases created : (create (listing state).state).value with
  | error failure => simp [ensure, Act.andThen, value, isListed_state, Act.log, Act.note, created, Except.map]
  | ok =>
      simp [ensure, Act.andThen, value, isListed_state, Act.log, Act.note, created, Act.done,
        Except.map]

end

inductive Call where
  | list
  | create (name : String)

structure Platform where
  names : List String
  /-- Why listing fails, while it does. -/
  fault : Option Failure
  /-- What has been asked of the platform, in order. -/
  calls : List Call

inductive Creation where
  | fails (failure : Failure)
  | adds (names : List String)
  deriving DecidableEq

inductive Operation where
  | ensure (name : String) (creation : Creation)
  | remove (name : String)
  | list (fault : Option Failure)

namespace Platform

def list : Act Platform (List String) := fun platform =>
  let asked := { platform with calls := platform.calls ++ [.list] }
  match platform.fault with
  | some failure => ⟨.error failure, asked, []⟩
  | none => ⟨.ok platform.names, asked, []⟩

def create (name : String) (creation : Creation) : Act Platform Unit := fun platform =>
  let asked := { platform with calls := platform.calls ++ [.create name] }
  match creation with
  | .fails failure => ⟨.error failure, asked, []⟩
  | .adds names => ⟨.ok (), { asked with names := platform.names ++ names }, []⟩

/-- The platform after an operation, with what the guard answered. -/
def perform (platform : Platform) : Operation → Platform × Option (Except Failure Outcome)
  | .ensure name creation =>
      let result := Guard.ensure list name (create name creation) platform
      (result.state, some result.value)
  | .remove name => ({ platform with names := platform.names.filter (· ≠ name) }, none)
  | .list fault => ({ platform with fault := fault }, none)

def Lists (platform : Platform) (name : String) : Prop :=
  platform.fault = none ∧ name ∈ platform.names

instance (platform : Platform) (name : String) : Decidable (platform.Lists name) :=
  inferInstanceAs (Decidable (_ ∧ _))

theorem list_state (platform : Platform) :
    (list platform).state = { platform with calls := platform.calls ++ [.list] } := by
  unfold list
  cases platform.fault <;> rfl

theorem isListedAt_iff {platform : Platform} {name : String} :
    IsListedAt list name platform ↔ platform.Lists name := by
  unfold IsListedAt list Lists
  cases platform.fault <;> simp

end Platform

structure Event where
  operation : Operation
  before : Platform
  after : Platform
  answer : Option (Except Failure Outcome)

def eventOf (platform : Platform) (operation : Operation) : Event :=
  ⟨operation, platform, (platform.perform operation).1, (platform.perform operation).2⟩

def platformAfter (platform : Platform) : List Operation → Platform
  | [] => platform
  | operation :: rest => platformAfter (platform.perform operation).1 rest

def history (platform : Platform) : List Operation → List Event
  | [] => []
  | operation :: rest => eventOf platform operation :: history (platform.perform operation).1 rest

/-- One listing, and one creation where the name was not listed. -/
structure Ensured (name : String) (creation : Creation) (event : Event) : Prop where
  calls : event.after.calls =
    event.before.calls ++ if event.before.Lists name then [.list] else [.list, .create name]
  present : event.answer = some (.ok .alreadyPresent) ↔ event.before.Lists name
  initialized : event.answer = some (.ok .initialized) ↔
    ¬ event.before.Lists name ∧ ∃ names, creation = .adds names
  failed : ∀ failure, event.answer = some (.error failure) ↔
    ¬ event.before.Lists name ∧ creation = .fails failure
  added : ∀ names, event.answer = some (.ok .initialized) → creation = .adds names →
    event.after.names = event.before.names ++ names
  kept : event.answer ≠ some (.ok .initialized) → event.after.names = event.before.names

theorem ensured (platform : Platform) (name : String) (creation : Creation) :
    Ensured name creation (eventOf platform (.ensure name creation)) := by
  by_cases lists : platform.Lists name
  · obtain ⟨value, state⟩ := ensure_of_listed (Platform.create name creation)
      (Platform.isListedAt_iff.mpr lists)
    have event : eventOf platform (.ensure name creation) =
        ⟨.ensure name creation, platform, { platform with calls := platform.calls ++ [.list] },
          some (.ok .alreadyPresent)⟩ := by
      simp [eventOf, Platform.perform, value, state, Platform.list_state]
    rw [event]
    exact ⟨by simp [lists], by simp [lists], by simp [lists], by simp [lists], by simp, fun _ => rfl⟩
  · obtain ⟨value, state⟩ := ensure_of_unlisted (Platform.create name creation)
      (mt Platform.isListedAt_iff.mp lists)
    cases creation with
    | fails failure =>
        have event : eventOf platform (.ensure name (.fails failure)) =
            ⟨.ensure name (.fails failure), platform,
              { platform with calls := platform.calls ++ [.list, .create name] },
              some (.error failure)⟩ := by
          simp [eventOf, Platform.perform, value, state, Platform.list_state, Platform.create,
            Except.map]
        rw [event]
        exact ⟨by simp [lists], by simp [lists], by simp, by simp [lists], by simp, fun _ => rfl⟩
    | adds names =>
        have event : eventOf platform (.ensure name (.adds names)) =
            ⟨.ensure name (.adds names), platform,
              { platform with
                calls := platform.calls ++ [.list, .create name]
                names := platform.names ++ names },
              some (.ok .initialized)⟩ := by
          simp [eventOf, Platform.perform, value, state, Platform.list_state, Platform.create,
            Except.map]
        rw [event]
        exact ⟨by simp [lists], by simp [lists], by simp [lists], by simp, by simp, by simp⟩

/-- No listing fails, and what is created adds its own name and no other. -/
def Event.Regular : Event → Prop
  | ⟨.ensure name creation, before, _, answer⟩ =>
      before.fault = none ∧ (answer = some (.ok .initialized) → creation = .adds [name])
  | _ => True

instance : DecidablePred Event.Regular
  | ⟨.ensure _ _, _, _, _⟩ => inferInstanceAs (Decidable (_ ∧ (_ → _)))
  | ⟨.remove _, _, _, _⟩ => .isTrue trivial
  | ⟨.list _, _, _, _⟩ => .isTrue trivial

def Event.initializes (name : String) (event : Event) : Bool :=
  match event.operation, event.answer with
  | .ensure other _, some (.ok .initialized) => other = name
  | _, _ => false

theorem Event.initializes_iff {name : String} {event : Event} :
    event.initializes name ↔ ∃ creation,
      event.operation = .ensure name creation ∧ event.answer = some (.ok .initialized) := by
  obtain ⟨operation, before, after, answer⟩ := event
  unfold initializes
  cases operation with
  | ensure other creation =>
      rcases answer with _ | _ | _ | _ <;> simp [eq_comm]
  | remove other => simp
  | list fault => simp

theorem mem_history {platform : Platform} {operations : List Operation} {event : Event}
    (member : event ∈ history platform operations) :
    ∃ before operation, event = eventOf before operation := by
  induction operations generalizing platform with
  | nil => cases member
  | cons operation rest ih =>
      rcases List.mem_cons.mp member with rfl | later
      · exact ⟨platform, operation, rfl⟩
      · exact ih later

theorem nodup_perform {platform : Platform} {operation : Operation}
    (regular : (eventOf platform operation).Regular) (distinct : platform.names.Nodup) :
    (platform.perform operation).1.names.Nodup := by
  cases operation with
  | remove name => exact distinct.filter _
  | list fault => exact distinct
  | ensure name creation =>
      have done := ensured platform name creation
      obtain ⟨working, adds⟩ := regular
      by_cases new : (eventOf platform (.ensure name creation)).answer = some (.ok .initialized)
      · -- No listing has failed, so what was not listed was not there.
        have unlisted : ¬ platform.Lists name := (done.initialized.mp new).1
        have absent : name ∉ platform.names := fun member => unlisted ⟨working, member⟩
        have names : (platform.perform (.ensure name creation)).1.names = platform.names ++ [name] :=
          done.added [name] new (adds new)
        rw [names]
        exact List.nodup_append_comm.mp (List.nodup_cons.mpr ⟨absent, distinct⟩)
      · have names : (platform.perform (.ensure name creation)).1.names = platform.names :=
          done.kept new
        rw [names]
        exact distinct

theorem history_append (platform : Platform) (earlier later : List Operation) :
    history platform (earlier ++ later) =
      history platform earlier ++ history (platformAfter platform earlier) later := by
  induction earlier generalizing platform with
  | nil => rfl
  | cons operation rest ih => exact congrArg (_ :: ·) (ih _)

theorem nodup_history {platform : Platform} {operations : List Operation}
    (regular : ∀ event ∈ history platform operations, event.Regular)
    (distinct : platform.names.Nodup) :
    ∀ event ∈ history platform operations, event.after.names.Nodup := by
  induction operations generalizing platform with
  | nil => simp [history]
  | cons operation rest ih =>
      have first := nodup_perform (regular _ List.mem_cons_self) distinct
      intro event member
      rcases List.mem_cons.mp member with rfl | later
      · exact first
      · exact ih (fun event member => regular event (List.mem_cons_of_mem _ member)) first event later

theorem mem_perform {platform : Platform} {operation : Operation} {name : String}
    (member : name ∈ platform.names) (stays : operation ≠ .remove name) :
    name ∈ (platform.perform operation).1.names := by
  cases operation with
  | remove other =>
      have distinct : name ≠ other := fun same => stays (by rw [same])
      simpa [Platform.perform] using ⟨member, distinct⟩
  | list fault => exact member
  | ensure other creation =>
      have done := ensured platform other creation
      by_cases new : (eventOf platform (.ensure other creation)).answer = some (.ok .initialized)
      · obtain ⟨-, names, rfl⟩ := done.initialized.mp new
        have after : (platform.perform (.ensure other (.adds names))).1.names = platform.names ++ names :=
          done.added names new rfl
        rw [after]
        exact List.mem_append_left _ member
      · have after : (platform.perform (.ensure other creation)).1.names = platform.names :=
          done.kept new
        rw [after]
        exact member

theorem absent_of_initializes {platform : Platform} {operation : Operation} {name : String}
    (regular : (eventOf platform operation).Regular)
    (new : (eventOf platform operation).initializes name) :
    name ∉ platform.names ∧ name ∈ (platform.perform operation).1.names := by
  obtain ⟨creation, rfl, answer⟩ := Event.initializes_iff.mp new
  have done := ensured platform name creation
  obtain ⟨working, adds⟩ := regular
  have names : (platform.perform (.ensure name creation)).1.names = platform.names ++ [name] :=
    done.added [name] answer (adds answer)
  exact ⟨fun member => (done.initialized.mp answer).1 ⟨working, member⟩, by simp [names]⟩

/-- Where the name is not taken away it is brought in at most once, and not at all if it was there. -/
theorem initializations_le {platform : Platform} {operations : List Operation} {name : String}
    (regular : ∀ event ∈ history platform operations, event.Regular)
    (stays : Operation.remove name ∉ operations) :
    ((history platform operations).filter (·.initializes name)).length ≤
      if name ∈ platform.names then 0 else 1 := by
  -- The bound falls to nothing where the name is brought in, and stays there as long as it is kept.
  induction operations generalizing platform with
  | nil => simp [history]
  | cons operation rest ih =>
      have others : ((history (platform.perform operation).1 rest).filter
          (·.initializes name)).length ≤ if name ∈ (platform.perform operation).1.names then 0 else 1 :=
        ih (fun event member => regular event (List.mem_cons_of_mem _ member))
          (fun member => stays (List.mem_cons_of_mem _ member))
      by_cases new : (eventOf platform operation).initializes name
      · obtain ⟨absent, present⟩ := absent_of_initializes (regular _ List.mem_cons_self) new
        rw [if_pos present] at others
        simpa [history, new, absent] using others
      · rw [history, List.filter_cons_of_neg new]
        refine Nat.le_trans others ?_
        by_cases member : name ∈ platform.names
        · have remains := mem_perform member fun same => stays (same ▸ List.mem_cons_self)
          simp [remains, member]
        · rw [if_neg member]
          split <;> decide

/-- Each guarding lists once, creates what was not listed and answers for it.  While listings answer
and creations add their own name alone, names stay distinct, and one that is not taken away is created
at most once. -/
theorem guarded_history (start : Platform) (operations : List Operation) :
    (∀ event ∈ history start operations, ∀ name creation,
      event.operation = .ensure name creation → Ensured name creation event) ∧
    ((∀ event ∈ history start operations, event.Regular) → start.names.Nodup →
      (∀ event ∈ history start operations, event.after.names.Nodup) ∧
      ∀ (name : String) (earlier during later : List Operation),
        operations = earlier ++ during ++ later → Operation.remove name ∉ during →
          ((history (platformAfter start earlier) during).filter (·.initializes name)).length ≤ 1) := by
  constructor
  · intro event member name creation operation
    obtain ⟨before, found, rfl⟩ := mem_history member
    obtain rfl : found = .ensure name creation := operation
    exact ensured before name creation
  · intro regular distinct
    refine ⟨nodup_history regular distinct, ?_⟩
    rintro name earlier during later rfl stays
    have within : ∀ event ∈ history (platformAfter start earlier) during, event.Regular := by
      intro event member
      exact regular event (by simp [history_append, member])
    refine Nat.le_trans (initializations_le within stays) ?_
    split <;> decide

/-- A resource made, kept, taken away and made again after a creation that failed. -/
theorem guarded_history_again :
    let start : Platform := ⟨["a"], none, []⟩
    let during : List Operation :=
      [.remove "a", .ensure "b" (.fails .interrupted), .ensure "b" (.adds ["b"]),
        .ensure "b" (.adds ["b"])]
    let operations := [.ensure "b" (.adds ["b"]), .remove "b"] ++ during ++ [.remove "b"]
    (∀ event ∈ history start operations, event.Regular) ∧ start.names.Nodup ∧
      (∀ event ∈ history start operations, event.after.names.Nodup) ∧
      ((history (platformAfter start [.ensure "b" (.adds ["b"]), .remove "b"]) during).filter
        (·.initializes "b")).length ≤ 1 := by
  intro start during operations
  have regular : ∀ event ∈ history start operations, event.Regular := by decide
  have distinct : start.names.Nodup := by decide
  obtain ⟨names, once⟩ := (guarded_history start operations).2 regular distinct
  exact ⟨regular, distinct, names, once "b" _ during _ rfl (by simp [during])⟩

end Groundwork.Guard
