import Groundwork.Proofs.Run.Reports
import Mathlib.Data.List.Forall2

namespace Groundwork

/-! The events of a run are well formed, and the report can be rebuilt from them.

Events and report are written side by side.  Both are read here from the passages of the run: a
passage gives one block of events, and folding over the block gives its part of the report.
-/

universe u

variable {σ : Type u}

namespace Event

/-- The step that an event is about. -/
def place? : Event → Option (String × Nat)
  | .taskStarted .. | .taskFinished .. => none
  | .stepStarted task index _ | .stepSkipped task index _ | .stepWarning task index _ =>
      some (task, index)

/-- What an event adds to a report. -/
def record (report : Report) : Event → Report
  | .taskFinished task status => { report with tasks := report.tasks ++ [⟨task, status⟩] }
  | .stepWarning task index error =>
      { report with
        warnings := report.warnings ++ [task ++ " step " ++ toString index ++ ": " ++ error] }
  | .taskStarted .. | .stepStarted .. | .stepSkipped .. => report

/-- Steps of a task that start one after another from one place to before another, each with at
most one event on how it went. -/
inductive Steps (task : String) : List Event → Nat → Nat → Prop
  | none : Steps task [] index index
  | plain (later : Steps task events (index + 1) next) :
      Steps task (.stepStarted task index summary :: events) index next
  | skipped (later : Steps task events (index + 1) next) :
      Steps task (.stepStarted task index summary :: .stepSkipped task index reason :: events)
        index next
  | warned (later : Steps task events (index + 1) next) :
      Steps task (.stepStarted task index summary :: .stepWarning task index error :: events)
        index next

/-- The events of a task: its steps from the first on between start and finish, all of them unless
the task failed. -/
inductive Block (task : Task) : Status → List Event → Prop
  | mk (steps : Steps task.name events 1 next) (bounded : next ≤ task.steps.length + 1)
      (complete : status.isFailed = false → next = task.steps.length + 1) :
      Block task status
        (.taskStarted task.name task.steps.length :: events ++ [.taskFinished task.name status])

theorem Steps.le {task : String} {events : List Event} {index next : Nat}
    (steps : Steps task events index next) : index ≤ next := by
  induction steps with
  | none => exact Nat.le_refl _
  | plain _ ih | skipped _ ih | warned _ ih => omega

theorem Steps.place {task : String} {events : List Event} {index next : Nat}
    (steps : Steps task events index next) :
    ∀ event ∈ events, ∃ place, event.place? = some (task, place) ∧ index ≤ place ∧ place < next := by
  induction steps with
  | none => simp
  | plain later ih =>
      have bound := later.le
      intro event member
      rcases List.mem_cons.mp member with rfl | member
      · exact ⟨_, rfl, Nat.le_refl _, bound⟩
      · obtain ⟨place, found, lower, upper⟩ := ih event member
        exact ⟨place, found, by omega, upper⟩
  | skipped later ih | warned later ih =>
      have bound := later.le
      intro event member
      rcases List.mem_cons.mp member with rfl | member
      · exact ⟨_, rfl, Nat.le_refl _, bound⟩
      · rcases List.mem_cons.mp member with rfl | member
        · exact ⟨_, rfl, Nat.le_refl _, bound⟩
        · obtain ⟨place, found, lower, upper⟩ := ih event member
          exact ⟨place, found, by omega, upper⟩

theorem Block.place {task : Task} {status : Status} {events : List Event}
    (block : Block task status events) {event : Event} (member : event ∈ events) {name : String}
    {index : Nat} (about : event.place? = some (name, index)) :
    name = task.name ∧ 1 ≤ index ∧ index ≤ task.steps.length := by
  obtain ⟨steps, bounded, _⟩ := block
  rcases List.mem_append.mp member with inside | last
  · rcases List.mem_cons.mp inside with rfl | inside
    · contradiction
    · obtain ⟨place, found, lower, upper⟩ := steps.place event inside
      rw [found] at about
      obtain ⟨rfl, rfl⟩ := Prod.mk.inj (Option.some.inj about)
      exact ⟨rfl, lower, by omega⟩
  · rw [List.mem_singleton.mp last] at about
    contradiction

end Event

namespace Moment

theorem events_append (earlier later : List Moment) :
    events (earlier ++ later) = events earlier ++ events later :=
  List.filterMap_append

@[simp]
theorem events_nil : events [] = [] := rfl

@[simp]
theorem events_logged (tag : Option Log.Tag) (level : Log.Level) (text : String)
    (later : List Moment) : events (logged tag level text :: later) = events later := rfl

@[simp]
theorem events_emitted (tag : Option Log.Tag) (event : Event) (later : List Moment) :
    events (emitted tag event :: later) = event :: events later := rfl

theorem events_ofNotes (tag : Option Log.Tag) (notes : List Note) :
    events (ofNotes tag notes) = [] := by
  simp [events, ofNotes, event?]

theorem events_attempt (attempt : Attempt σ) :
    events attempt.moments =
      .stepStarted attempt.context.task attempt.context.index attempt.step.summary ::
        events attempt.closing := by
  rw [Attempt.moments, events_append, events_append, events_ofNotes]
  rfl

theorem events_attempts (attempts : List (Attempt σ)) :
    events (attempts.flatMap Attempt.moments) =
      attempts.flatMap fun attempt => events attempt.moments :=
  List.filterMap_flatMap

theorem events_passage (outer : Option Log.Tag) (passage : Passage σ) :
    events (passage.moments outer) =
      .taskStarted passage.task.name passage.task.steps.length ::
        (passage.attempts.flatMap fun attempt => events attempt.moments) ++
        [.taskFinished passage.task.name passage.status] := by
  rw [Passage.moments, events_append, events_append, events_attempts]
  rfl

theorem events_passages (outer : Option Log.Tag) (passages : List (Passage σ)) :
    events (passages.flatMap (Passage.moments outer)) =
      (passages.map fun passage => events (passage.moments outer)).flatten := by
  rw [events, List.filterMap_flatMap, List.flatMap_def]
  rfl

end Moment

namespace Event

/-- One attempt starts its step and adds at most one event to that. -/
theorem Steps.attempt {attempt : Attempt σ} {events : List Event} {next : Nat}
    (later : Steps attempt.context.task events (attempt.context.index + 1) next) :
    Steps attempt.context.task (Moment.events attempt.moments ++ events) attempt.context.index
      next := by
  rw [Moment.events_attempt, Attempt.closing]
  split
  · exact .plain later
  · exact .skipped later
  · split
    · exact .plain later
    · exact .warned later

theorem steps_attempts (sequencer : Sequencer σ) (task : Task) {attempts : List (Attempt σ)}
    {index : Nat} {steps : List Step}
    (called : attempts.map Attempt.call <+: sequencer.callsFrom task index steps) :
    Steps task.name (attempts.flatMap fun attempt => Moment.events attempt.moments) index
      (index + attempts.length) := by
  induction attempts generalizing index steps with
  | nil => exact .none
  | cons attempt rest ih =>
      cases steps with
      | nil => simp [Sequencer.callsFrom] at called
      | cons step later =>
          rw [Sequencer.callsFrom_cons, List.map_cons, List.cons_prefix_cons] at called
          obtain ⟨first, called⟩ := called
          have context : attempt.context = sequencer.context task index := congrArg Prod.snd first
          have named : attempt.context.task = task.name := by rw [context]; rfl
          have placed : attempt.context.index = index := by rw [context]; rfl
          have continued := ih called
          rw [← named, ← placed] at continued ⊢
          rw [List.flatMap_cons, List.length_cons, Nat.add_comm rest.length, ← Nat.add_assoc]
          exact continued.attempt

/-- The events of a passage are a block: its attempts are a start of the steps of the task, and all
of them where none aborts. -/
theorem block_passage {sequencer : Sequencer σ} {plan : List Task} {state : σ} {passage : Passage σ}
    (outer : Option Log.Tag) (member : passage ∈ sequencer.passages plan state) :
    Block passage.task passage.status (Moment.events (passage.moments outer)) := by
  obtain ⟨task, _, before, rfl⟩ := sequencer.mem_passages member
  let attempts := sequencer.executor.follow (sequencer.callsFrom task 1 task.steps) before
  have called : attempts.map Attempt.call <+: sequencer.callsFrom task 1 task.steps :=
    sequencer.executor.follow_prefix _ _
  have count : (sequencer.callsFrom task 1 task.steps).length = task.steps.length := by
    simp [Sequencer.callsFrom]
  rw [Moment.events_passage]
  refine .mk (steps_attempts sequencer task called) ?_ ?_
  · have bound := called.length_le
    rw [List.length_map, count] at bound
    change 1 + attempts.length ≤ task.steps.length + 1
    omega
  · -- Without an abort the attempts are at all steps of the task.
    intro going
    rw [Sequencer.isFailed_status, Option.isSome_eq_false_iff, Option.isNone_iff_eq_none] at going
    have passed : ∀ attempt ∈ attempts, attempt.aborts = false := fun attempt attempted =>
      Attempt.abort?_eq_none.mp (List.findSome?_eq_none_iff.mp going attempt attempted)
    have complete := congrArg List.length (sequencer.executor.follow_complete passed)
    rw [List.length_map, count] at complete
    change 1 + attempts.length = task.steps.length + 1
    have same : attempts.length = task.steps.length := complete
    omega

theorem record_attempt (report : Report) (attempt : Attempt σ) :
    (Moment.events attempt.moments).foldl record report =
      { report with warnings := report.warnings ++ attempt.warning?.toList } := by
  rw [Moment.events_attempt, Attempt.closing, Attempt.warning?]
  cases attempt.result.value with
  | ok outcome => cases outcome <;> simp [record]
  | error failure => cases attempt.aborts <;> simp [record]

theorem record_attempts (report : Report) (attempts : List (Attempt σ)) :
    (attempts.flatMap fun attempt => Moment.events attempt.moments).foldl record report =
      { report with warnings := report.warnings ++ attempts.filterMap Attempt.warning? } := by
  induction attempts generalizing report with
  | nil => simp
  | cons attempt rest ih =>
      rw [List.flatMap_cons, List.foldl_append, record_attempt, ih]
      cases warning : attempt.warning? <;> simp [warning]

theorem record_passage (outer : Option Log.Tag) (report : Report) (passage : Passage σ) :
    (Moment.events (passage.moments outer)).foldl record report =
      { report with
        tasks := report.tasks ++ [passage.report]
        warnings := report.warnings ++ passage.warnings } := by
  have opened : record report (.taskStarted passage.task.name passage.task.steps.length) = report := rfl
  rw [Moment.events_passage, List.foldl_append]
  simp only [List.foldl_cons, List.foldl_nil, opened, record_attempts]
  rfl

theorem record_passages (outer : Option Log.Tag) (report : Report) (passages : List (Passage σ)) :
    (passages.map fun passage => Moment.events (passage.moments outer)).flatten.foldl record report =
      { report with
        tasks := report.tasks ++ passages.map Passage.report
        warnings := report.warnings ++ passages.flatMap Passage.warnings } := by
  induction passages generalizing report with
  | nil => simp
  | cons passage rest ih =>
      rw [List.map_cons, List.flatten_cons, List.foldl_append, record_passage, ih]
      simp

end Event

namespace Sequencer

variable (sequencer : Sequencer σ)

theorem events_run {targets : List String} {plan : List Task} (outer : Option Log.Tag)
    (session : Session σ) (resolved : sequencer.graph.resolve targets = .ok plan) :
    Moment.events (sequencer.run outer targets session).moments =
      ((sequencer.passages plan session.state).map fun passage =>
        Moment.events (passage.moments outer)).flatten := by
  rw [← Moment.events_passages]
  exact run_moments sequencer outer session resolved Moment.event? fun _ _ _ => rfl

/-- The events of a run are one block for each task that was started, in plan order, and folding
over them rebuilds the report up to the time at which it was finished. -/
theorem run_events_rebuild_report (outer : Option Log.Tag) (targets : List String)
    (session : Session σ) (declared : ∀ target ∈ targets, sequencer.graph.contains target = true) :
    let result := sequencer.run outer targets session
    let events := Moment.events result.moments
    ∃ plan report started blocks, sequencer.graph.resolve targets = .ok plan ∧
      result.session.report = some report ∧
      started <+: plan ∧
      report.executed = started.map Task.name ∧
      events = blocks.flatten ∧
      List.Forall₂ (fun task block => ∃ status, Event.Block task status block) started blocks ∧
      (∀ event ∈ events, ∀ name index, event.place? = some (name, index) →
        ∃ task ∈ started, name = task.name ∧ 1 ≤ index ∧ index ≤ task.steps.length) ∧
      events.foldl Event.record (.start targets) = { report with finished := false } := by
  intro result events
  obtain ⟨plan, resolved, _⟩ := TaskGraph.resolve_exists declared
  let passages := sequencer.passages plan session.state
  have told : events = (passages.map fun passage => Moment.events (passage.moments outer)).flatten :=
    events_run sequencer outer session resolved
  have blocks : ∀ passage ∈ passages, Event.Block passage.task passage.status
      (Moment.events (passage.moments outer)) := fun _ member => Event.block_passage outer member
  refine ⟨plan, _, passages.map Passage.task, _, resolved, run_report sequencer outer session resolved,
    sequencer.tasks_passages_prefix plan session.state, ?_, told, ?_, ?_, ?_⟩
  · simp only [reportOf, Report.executed, List.map_map]
    rfl
  · rw [List.forall₂_map_left_iff, List.forall₂_map_right_iff, List.forall₂_same]
    exact fun passage member => ⟨passage.status, blocks passage member⟩
  · intro event member name index about
    rw [told] at member
    obtain ⟨block, listed, inside⟩ := List.mem_flatten.mp member
    obtain ⟨passage, passed, rfl⟩ := List.mem_map.mp listed
    exact ⟨passage.task, List.mem_map_of_mem passed, (blocks passage passed).place inside about⟩
  · rw [told, Event.record_passages]
    simp [Report.start, reportOf, passages]

theorem rollout_events_rebuild_report :
    (∀ target ∈ ["deploy"], rollout.graph.contains target = true) ∧
      ∃ report, (rollout.run none ["deploy"] interruptedRollout).session.report = some report ∧
        report.executed = ["teardown", "deploy"] ∧
        (Moment.events (rollout.run none ["deploy"] interruptedRollout).moments).length = 9 ∧
        (Moment.events (rollout.run none ["deploy"] interruptedRollout).moments).foldl Event.record
          (.start ["deploy"]) = { report with finished := false } := by
  have declared : ∀ target ∈ ["deploy"], rollout.graph.contains target = true := by decide
  obtain ⟨_, report, _, _, _, stored, _, _, _, _, _, rebuilt⟩ :=
    run_events_rebuild_report rollout none ["deploy"] interruptedRollout declared
  have tasks : (rollout.run none ["deploy"] interruptedRollout).session.report.map Report.executed =
      some ["teardown", "deploy"] := rfl
  rw [stored] at tasks
  exact ⟨declared, report, stored, Option.some.inj tasks, rfl, rebuilt⟩

end Sequencer

end Groundwork
