import Groundwork.Proofs.Run.Attempts
import Groundwork.Run.Sequencer

namespace Groundwork

/-! A run is told by the tasks it passes through, each with the attempts at its steps.

What the sequencer does step by step (state, report and moments at once) is brought into closed form
here: the state is that behind the last attempt, and reports, warnings and moments are those of the
passages in order.
-/

universe u

variable {σ : Type u}

namespace Attempt

/-- What is put down behind the call and the notes of the executor. -/
def closing (attempt : Attempt σ) : List Moment :=
  let context := attempt.context
  match attempt.result.value with
  | .ok .ran => []
  | .ok (.skipped reason) =>
      [.logged context.tag .info ("skipped: " ++ reason),
        .emitted context.tag (.stepSkipped context.task context.index reason)]
  | .error failure =>
      if attempt.aborts then [.logged context.tag .error ("failed: " ++ failure.message)]
      else
        [.logged context.tag .warn ("failed, continuing: " ++ failure.message),
          .emitted context.tag (.stepWarning context.task context.index failure.message)]

def moments (attempt : Attempt σ) : List Moment :=
  let context := attempt.context
  [.logged context.tag .debug ("running " ++ attempt.step.summary),
    .emitted context.tag (.stepStarted context.task context.index attempt.step.summary),
    ⟨context.tag, .called attempt.step context⟩] ++
    Moment.ofNotes context.tag attempt.result.notes ++ attempt.closing

end Attempt

/-- A task that was started, with the attempts at its steps. -/
structure Passage (σ : Type u) where
  task : Task
  attempts : List (Attempt σ)

namespace Passage

def abort? (passage : Passage σ) : Option Failure :=
  passage.attempts.findSome? Attempt.abort?

def warnings (passage : Passage σ) : List String :=
  passage.attempts.filterMap Attempt.warning?

def status (passage : Passage σ) : Status :=
  match passage.abort? with
  | some failure => .failed failure.message
  | none => Sequencer.statusOf passage.warnings.length

theorem status_aborted {passage : Passage σ} {failure : Failure}
    (aborted : passage.abort? = some failure) : passage.status = .failed failure.message := by
  rw [status, aborted]

theorem status_passed {passage : Passage σ} (passed : passage.abort? = none) :
    passage.status = Sequencer.statusOf passage.warnings.length := by
  rw [status, passed]

def report (passage : Passage σ) : TaskReport := ⟨passage.task.name, passage.status⟩

def moments (outer : Option Log.Tag) (passage : Passage σ) : List Moment :=
  [.logged outer .info ("Task '" ++ passage.task.name ++ "' started"),
    .emitted outer (.taskStarted passage.task.name passage.task.steps.length)] ++
    passage.attempts.flatMap Attempt.moments ++
    [.logged outer .info ("Task '" ++ passage.task.name ++ "' " ++ passage.status.shown),
      .emitted outer (.taskFinished passage.task.name passage.status)]

end Passage

namespace Sequencer

variable (sequencer : Sequencer σ)

def callsFrom (task : Task) (index : Nat) (steps : List Step) : List Call :=
  (steps.zipIdx index).map fun (step, index) => (step, sequencer.context task index)

theorem callsFrom_cons (task : Task) (index : Nat) (step : Step) (rest : List Step) :
    sequencer.callsFrom task index (step :: rest) =
      (step, sequencer.context task index) :: sequencer.callsFrom task (index + 1) rest := rfl

/-- The calls for all steps of a plan, in plan order and step order. -/
def schedule (plan : List Task) : List Call :=
  plan.flatMap fun task => sequencer.callsFrom task 1 task.steps

def passage (task : Task) (state : σ) : Passage σ :=
  ⟨task, sequencer.executor.follow (sequencer.callsFrom task 1 task.steps) state⟩

/-- The tasks of a plan up to the first in which an attempt aborts. -/
def passages : List Task → σ → List (Passage σ)
  | [], _ => []
  | task :: rest, state =>
      let passage := sequencer.passage task state
      if passage.abort?.isSome then [passage]
      else passage :: passages rest (Attempt.stateAfter state passage.attempts)

namespace Progress

/-- How far a run has come behind some more attempts at steps.  The tag that was in force before is
in force again. -/
def attempted (progress : Progress σ) (attempts : List (Attempt σ)) : Progress σ where
  state := Attempt.stateAfter progress.state attempts
  report := { progress.report with
    warnings := progress.report.warnings ++ attempts.filterMap Attempt.warning? }
  tag := progress.tag
  moments := progress.moments ++ attempts.flatMap Attempt.moments

/-- How far a run has come behind some more tasks. -/
def passed (progress : Progress σ) (passages : List (Passage σ)) : Progress σ where
  state := Attempt.stateAfter progress.state (passages.flatMap Passage.attempts)
  report := { progress.report with
    tasks := progress.report.tasks ++ passages.map Passage.report
    warnings := progress.report.warnings ++ passages.flatMap Passage.warnings }
  tag := progress.tag
  moments := progress.moments ++ passages.flatMap (Passage.moments progress.tag)

theorem attempted_nil (progress : Progress σ) : progress.attempted [] = progress := by
  simp [attempted, Attempt.stateAfter]

theorem attempted_cons (progress : Progress σ) (attempt : Attempt σ) (rest : List (Attempt σ)) :
    progress.attempted (attempt :: rest) = (progress.attempted [attempt]).attempted rest := by
  cases warning : attempt.warning? <;>
    simp [attempted, Attempt.stateAfter, warning]

theorem passed_nil (progress : Progress σ) : progress.passed [] = progress := by
  simp [passed, Attempt.stateAfter]

theorem passed_cons (progress : Progress σ) (passage : Passage σ) (rest : List (Passage σ)) :
    progress.passed (passage :: rest) = (progress.passed [passage]).passed rest := by
  simp [passed, Attempt.stateAfter]

theorem emit_eq (progress : Progress σ) (event : Event) :
    progress.emit event =
      { progress with moments := progress.moments ++ [.emitted progress.tag event] } := rfl

theorem log_eq (progress : Progress σ) (level : Log.Level) (text : String) :
    progress.log level text =
      { progress with moments := progress.moments ++ [.logged progress.tag level text] } := rfl

/-- Inside the scope of a step the executor finds what the step's own context says. -/
theorem call_eq (sequencer : Sequencer σ) (task : Task) (index : Nat) (step : Step)
    (progress : Progress σ) (tagged : progress.tag = some ⟨task.name, index⟩) :
    progress.call sequencer.executor step (sequencer.context task index) =
      let context := sequencer.context task index
      let result := sequencer.executor.execute step context progress.state
      (result.value,
        { progress with
          state := result.state
          moments := progress.moments ++ [⟨context.tag, .called step context⟩] ++
            Moment.ofNotes context.tag result.notes }) := by
  have context : { sequencer.context task index with tag := progress.tag } =
      sequencer.context task index := by rw [tagged]; rfl
  have own : (sequencer.context task index).tag = progress.tag := tagged.symm
  simp only [call, putDown, context, own]

end Progress

theorem runStep_eq (task : Task) (index : Nat) (step : Step) (progress : Progress σ) :
    sequencer.runStep task index step progress =
      let attempt := sequencer.executor.attempt progress.state (step, sequencer.context task index)
      ⟨attempt.abort?, attempt.warning?.isSome, progress.attempted [attempt]⟩ := by
  simp only [runStep, Progress.enter, Log.Scope.opened]
  rw [Progress.call_eq sequencer task index step _ rfl]
  generalize executed :
    sequencer.executor.execute step (sequencer.context task index) progress.state = result
  obtain ⟨value, state, notes⟩ := result
  simp only [Progress.emit_eq, Progress.log_eq, Executor.attempt, executed]
  cases value with
  | ok outcome =>
      cases outcome <;>
        simp [Attempt.abort?, Attempt.warning?, Progress.attempted, Progress.leave, Log.Scope.closed,
          Attempt.stateAfter, Attempt.moments, Attempt.closing, context, List.filterMap_cons]
  | error failure =>
      by_cases interrupt : failure = .interrupted
      · simp [interrupt, Attempt.abort?, Attempt.warning?, Attempt.aborts, Failure.isFatal,
          abortFailure, Progress.attempted, Progress.leave, Log.Scope.closed, Attempt.stateAfter,
          Attempt.moments, Attempt.closing, context]
      · have bearable : failure.isFatal = false := by
          cases failure <;> first | rfl | contradiction
        cases effort : step.bestEffort <;>
          simp [interrupt, bearable, effort, Attempt.abort?, Attempt.warning?, Attempt.aborts,
            abortFailure, Progress.attempted, Progress.leave, Progress.warn, Log.Scope.closed,
            Attempt.stateAfter, Attempt.moments, Attempt.closing, context, Report.addWarning,
            warningText]

theorem runSteps_eq (task : Task) (index : Nat) (steps : List Step) (warnings : Nat)
    (progress : Progress σ) :
    sequencer.runSteps task index steps warnings progress =
      let attempts := sequencer.executor.follow (sequencer.callsFrom task index steps) progress.state
      ⟨attempts.findSome? Attempt.abort?, warnings + (attempts.filterMap Attempt.warning?).length,
        progress.attempted attempts⟩ := by
  induction steps generalizing index warnings progress with
  | nil => simp [runSteps, callsFrom, Executor.follow, Progress.attempted_nil]
  | cons step rest ih =>
      simp only [runSteps, runStep_eq, callsFrom_cons, Executor.follow]
      generalize sequencer.executor.attempt progress.state (step, sequencer.context task index) = attempt
      cases aborted : attempt.abort? with
      | some failure =>
          have aborting : attempt.aborts = true := by rw [← Attempt.abort?_isSome, aborted]; rfl
          have quiet := Attempt.warning?_of_aborts aborting
          simp [aborting, aborted, quiet]
      | none =>
          have passed := Attempt.abort?_eq_none.mp aborted
          have state : (progress.attempted [attempt]).state = attempt.result.state := rfl
          simp only [ih, state, passed, Bool.false_eq_true, ↓reduceIte]
          generalize sequencer.executor.follow _ attempt.result.state = later
          rw [progress.attempted_cons attempt later, List.findSome?_cons, aborted, List.filterMap_cons]
          cases attempt.warning? with
          | none => rfl
          | some text => simp [Nat.add_assoc, Nat.add_comm 1]

theorem runTask_eq (task : Task) (progress : Progress σ) :
    sequencer.runTask task progress =
      let passage := sequencer.passage task progress.state
      (passage.abort?, progress.passed [passage]) := by
  obtain ⟨passage, passes⟩ : ∃ passage, sequencer.passage task progress.state = passage := ⟨_, rfl⟩
  have same : passage.task = task := by rw [← passes]; rfl
  have attempts : sequencer.executor.follow (sequencer.callsFrom task 1 task.steps) progress.state =
      passage.attempts := by rw [← passes]; rfl
  simp only [runTask, runSteps_eq, Progress.emit_eq, Progress.log_eq, attempts, passes, Nat.zero_add]
  cases aborted : passage.attempts.findSome? Attempt.abort? with
  | some failure =>
      have status := Passage.status_aborted aborted
      simp [Passage.abort?, aborted, finishTask, Progress.emit_eq, Progress.log_eq, Progress.attempted,
        Progress.passed, Report.addTask, Passage.report, Passage.moments, Passage.warnings, status, same]
  | none =>
      have status := Passage.status_passed aborted
      simp [Passage.abort?, aborted, finishTask, Progress.emit_eq, Progress.log_eq, Progress.attempted,
        Progress.passed, Report.addTask, Passage.report, Passage.moments, Passage.warnings, status, same]

theorem runTasks_eq (plan : List Task) (progress : Progress σ) :
    sequencer.runTasks plan progress =
      let passages := sequencer.passages plan progress.state
      (passages.findSome? Passage.abort?, progress.passed passages) := by
  induction plan generalizing progress with
  | nil => simp [runTasks, passages, Progress.passed_nil]
  | cons task rest ih =>
      simp only [runTasks, runTask_eq, passages]
      generalize sequencer.passage task progress.state = passage
      cases aborted : passage.abort? with
      | some failure => simp [aborted]
      | none =>
          have state : (progress.passed [passage]).state =
              Attempt.stateAfter progress.state passage.attempts := by
            simp [Progress.passed]
          simp only [ih, state, Option.isSome_none, Bool.false_eq_true, ↓reduceIte]
          generalize sequencer.passages rest _ = later
          rw [List.findSome?_cons, aborted, progress.passed_cons passage later]

/-- The report of a run that passed through some tasks. -/
def reportOf (targets : List String) (passages : List (Passage σ)) : Report where
  targets := targets
  tasks := passages.map Passage.report
  warnings := passages.flatMap Passage.warnings
  finished := (passages.findSome? Passage.abort?).isNone

theorem run_eq {targets : List String} {plan : List Task} (outer : Option Log.Tag)
    (session : Session σ) (resolved : sequencer.graph.resolve targets = .ok plan) :
    sequencer.run outer targets session =
      let passages := sequencer.passages plan session.state
      let report := reportOf targets passages
      let abort? := passages.findSome? Passage.abort?
      { value := abort?.elim (.ok report) .error
        session :=
          { state := Attempt.stateAfter session.state (passages.flatMap Passage.attempts)
            report := some report }
        moments := .logged outer .info (planText plan) :: passages.flatMap (Passage.moments outer) ++
          abort?.elim [.logged outer .info (finishText report)] fun _ => [] } := by
  have planned : sequencer.plan targets = .ok plan := resolved
  simp only [run, runWithin, planned, runTasks_eq, Progress.log_eq]
  cases aborted : (sequencer.passages plan session.state).findSome? Passage.abort? <;>
    simp [Progress.passed, Report.start, Report.finish, reportOf, aborted]

theorem run_refused {targets : List String} {failure : Failure} (outer : Option Log.Tag)
    (session : Session σ) (refused : sequencer.graph.resolve targets = .error failure) :
    sequencer.run outer targets session = ⟨.error failure, session, []⟩ := by
  have unplanned : sequencer.plan targets = .error failure := refused
  rw [run, runWithin, unplanned]

section Accepted

variable {targets : List String} {plan : List Task} (outer : Option Log.Tag) (session : Session σ)
  (resolved : sequencer.graph.resolve targets = .ok plan)

include resolved

theorem run_value :
    (sequencer.run outer targets session).value =
      ((sequencer.passages plan session.state).findSome? Passage.abort?).elim
        (.ok (reportOf targets (sequencer.passages plan session.state))) .error := by
  rw [run_eq sequencer outer session resolved]

theorem run_report :
    (sequencer.run outer targets session).session.report =
      some (reportOf targets (sequencer.passages plan session.state)) := by
  rw [run_eq sequencer outer session resolved]

theorem run_state :
    (sequencer.run outer targets session).session.state =
      Attempt.stateAfter session.state
        ((sequencer.passages plan session.state).flatMap Passage.attempts) := by
  rw [run_eq sequencer outer session resolved]

/-- Besides its passages a run puts down log lines only. -/
theorem run_moments {α : Type} (read : Moment → Option α)
    (silent : ∀ tag level text, read (.logged tag level text) = none) :
    (sequencer.run outer targets session).moments.filterMap read =
      ((sequencer.passages plan session.state).flatMap (Passage.moments outer)).filterMap read := by
  rw [run_eq sequencer outer session resolved, List.filterMap_append, List.filterMap_cons, silent]
  cases (sequencer.passages plan session.state).findSome? Passage.abort? <;> simp [silent]

end Accepted

theorem abort?_isSome_passage (passage : Passage σ) :
    passage.abort?.isSome = passage.attempts.any Attempt.aborts := by
  rw [Passage.abort?, List.isSome_findSome?]
  exact congrArg passage.attempts.any (funext Attempt.abort?_isSome)

/-- The attempts of all passages are those of the schedule, up to the first that aborts. -/
theorem attempts_passages (plan : List Task) (state : σ) :
    (sequencer.passages plan state).flatMap Passage.attempts =
      sequencer.executor.follow (sequencer.schedule plan) state := by
  induction plan generalizing state with
  | nil => rfl
  | cons task rest ih =>
      have attempts : sequencer.executor.follow (sequencer.callsFrom task 1 task.steps) state =
          (sequencer.passage task state).attempts := rfl
      rw [schedule, List.flatMap_cons, Executor.follow_append, attempts, passages,
        abort?_isSome_passage]
      simp only
      split
      · simp
      · rw [List.flatMap_cons, ih, schedule]

theorem tasks_passages_prefix (plan : List Task) (state : σ) :
    (sequencer.passages plan state).map Passage.task <+: plan := by
  induction plan generalizing state with
  | nil => exact List.prefix_rfl
  | cons task rest ih =>
      rw [passages]
      split
      · exact List.cons_prefix_cons.mpr ⟨rfl, List.nil_prefix⟩
      · exact List.cons_prefix_cons.mpr ⟨rfl, ih _⟩

theorem tasks_passages {plan : List Task} {state : σ}
    (passed : (sequencer.passages plan state).findSome? Passage.abort? = none) :
    (sequencer.passages plan state).map Passage.task = plan := by
  induction plan generalizing state with
  | nil => rfl
  | cons task rest ih =>
      rw [passages] at passed ⊢
      split at passed
      · next aborted =>
          rw [Option.isSome_iff_exists] at aborted
          obtain ⟨failure, aborted⟩ := aborted
          simp [aborted] at passed
      · next going =>
          rw [if_neg going]
          rw [List.findSome?_cons] at passed
          split at passed
          · contradiction
          · exact congrArg (task :: ·) (ih passed)

theorem passages_aborted {plan : List Task} {state : σ} {failure : Failure}
    (aborted : (sequencer.passages plan state).findSome? Passage.abort? = some failure) :
    ∃ earlier last, sequencer.passages plan state = earlier ++ [last] ∧
      (∀ passage ∈ earlier, passage.abort? = none) ∧ last.abort? = some failure := by
  induction plan generalizing state with
  | nil => simp [passages] at aborted
  | cons task rest ih =>
      rw [passages] at aborted ⊢
      cases ending : (sequencer.passage task state).abort? with
      | some reported =>
          simp only [ending, Option.isSome_some, ↓reduceIte, List.findSome?_cons,
            Option.some.injEq] at aborted ⊢
          subst aborted
          exact ⟨[], _, rfl, by simp, ending⟩
      | none =>
          simp only [ending, Option.isSome_none, Bool.false_eq_true, ↓reduceIte,
            List.findSome?_cons] at aborted ⊢
          obtain ⟨earlier, last, split, passed, reported⟩ := ih aborted
          refine ⟨_ :: earlier, last, by rw [split]; rfl, ?_, reported⟩
          intro passage member
          rcases List.mem_cons.mp member with rfl | member
          · exact ending
          · exact passed passage member

theorem mem_passages {plan : List Task} {state : σ} {passage : Passage σ}
    (member : passage ∈ sequencer.passages plan state) :
    ∃ task ∈ plan, ∃ before, passage = sequencer.passage task before := by
  induction plan generalizing state with
  | nil => simp [passages] at member
  | cons task rest ih =>
      rw [passages] at member
      split at member
      · exact ⟨task, List.mem_cons_self, state, List.mem_singleton.mp member⟩
      · rcases List.mem_cons.mp member with here | later
        · exact ⟨task, List.mem_cons_self, state, here⟩
        · obtain ⟨other, planned, before, same⟩ := ih later
          exact ⟨other, List.mem_cons_of_mem _ planned, before, same⟩

theorem abort?_passages (passages : List (Passage σ)) :
    passages.findSome? Passage.abort? =
      (passages.flatMap Passage.attempts).findSome? Attempt.abort? := by
  induction passages with
  | nil => rfl
  | cons passage rest ih =>
      rw [List.flatMap_cons, List.findSome?_append, ← ih, List.findSome?_cons, Passage.abort?]
      cases passage.attempts.findSome? Attempt.abort? <;> rfl

end Sequencer

end Groundwork
