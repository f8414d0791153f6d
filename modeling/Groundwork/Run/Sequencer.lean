import Groundwork.Graph.Basic
import Groundwork.Run.Executor
import Groundwork.Run.Report

namespace Groundwork

/-! Running tasks in order.

The steps of a plan run strictly one after another.  A failing step ends the run, unless it is a
best-effort step: then it leaves a warning and the next step runs.  A fatal failure always ends the
run.  Everything that happens is put down as a list of moments, each with the log tag in force then.
-/

inductive Occurrence where
  | event (event : Event)
  | called (step : Step) (context : StepContext)
  | noted (note : Note)

structure Moment where
  tag : Option Log.Tag
  occurrence : Occurrence

namespace Moment

def event? (moment : Moment) : Option Event :=
  match moment.occurrence with
  | .event event => some event
  | _ => none

def call? (moment : Moment) : Option (Step × StepContext) :=
  match moment.occurrence with
  | .called step context => some (step, context)
  | _ => none

def events (moments : List Moment) : List Event :=
  moments.filterMap event?

def calls (moments : List Moment) : List (Step × StepContext) :=
  moments.filterMap call?

/-- The lines for a log kept at a level. -/
def logLines (limit : Log.Level) (moments : List Moment) : List String :=
  moments.filterMap fun moment =>
    match moment.occurrence with
    | .noted (.logged level text) =>
        if level.within limit then some (Log.line level moment.tag text) else none
    | _ => none

def emitted (tag : Option Log.Tag) (event : Event) : Moment := ⟨tag, .event event⟩

def logged (tag : Option Log.Tag) (level : Log.Level) (text : String) : Moment :=
  ⟨tag, .noted (.logged level text)⟩

def ofNotes (tag : Option Log.Tag) (notes : List Note) : List Moment :=
  notes.map fun note => ⟨tag, .noted note⟩

end Moment

structure Sequencer (σ : Type u) where
  graph : TaskGraph
  executor : Executor σ
  vars : Vars
  environment : Environment
  baseDirectory : String
  timeout : Option Duration

namespace Sequencer

variable {σ : Type u}

structure Progress (σ : Type u) where
  state : σ
  report : Report
  /-- The log tag in force. -/
  tag : Option Log.Tag
  moments : List Moment

namespace Progress

/-- Everything is put down with the tag in force then. -/
def putDown (progress : Progress σ) (occurrence : Occurrence) : Progress σ :=
  { progress with moments := progress.moments ++ [⟨progress.tag, occurrence⟩] }

def emit (progress : Progress σ) (event : Event) : Progress σ :=
  progress.putDown (.event event)

def log (progress : Progress σ) (level : Log.Level) (text : String) : Progress σ :=
  progress.putDown (.noted (.logged level text))

/-- Opens a step scope, which has to be closed again. -/
def enter (progress : Progress σ) (tag : Log.Tag) : Log.Scope × Progress σ :=
  let (scope, current) := Log.Scope.opened progress.tag tag
  (scope, { progress with tag := current })

def leave (progress : Progress σ) (scope : Log.Scope) : Progress σ :=
  { progress with tag := scope.closed }

/-- Has the executor carry out a step; it finds the tag that is in force. -/
def call (progress : Progress σ) (executor : Executor σ) (step : Step) (context : StepContext) :
    Except Failure StepOutcome × Progress σ :=
  let context := { context with tag := progress.tag }
  let called := progress.putDown (.called step context)
  let result := executor.execute step context called.state
  (result.value,
    { called with
      state := result.state
      moments := called.moments ++ Moment.ofNotes called.tag result.notes })

def warn (progress : Progress σ) (warning : String) : Progress σ :=
  { progress with report := progress.report.addWarning warning }

end Progress

def context (sequencer : Sequencer σ) (task : Task) (index : Nat) : StepContext :=
  { task := task.name
    index := index
    vars := sequencer.vars
    environment := sequencer.environment
    baseDirectory := sequencer.baseDirectory
    timeout := sequencer.timeout
    tag := some ⟨task.name, index⟩ }

def abortFailure (task : Task) (index : Nat) (failure : Failure) : Failure :=
  if failure.isFatal then failure else .stepFailed task.name index failure.message

def finishTask (task : Task) (status : Status) (progress : Progress σ) : Progress σ :=
  let logged := progress.log .info ("Task '" ++ task.name ++ "' " ++ status.shown)
  { logged with report := logged.report.addTask ⟨task.name, status⟩ }.emit
    (.taskFinished task.name status)

/-- What a step leaves behind: the failure that aborts the run, if there is one, and whether there
was a warning. -/
structure StepEnd (σ : Type u) where
  abort : Option Failure
  warned : Bool
  progress : Progress σ

/-- The scope of a step is left on every way out of it. -/
def runStep (sequencer : Sequencer σ) (task : Task) (index : Nat) (step : Step)
    (progress : Progress σ) : StepEnd σ :=
  let summary := step.summary
  let (scope, entered) := progress.enter ⟨task.name, index⟩
  let begun := (entered.log .debug ("running " ++ summary)).emit
    (.stepStarted task.name index summary)
  let (value, after) := begun.call sequencer.executor step (sequencer.context task index)
  match value with
  | .ok .ran => ⟨none, false, after.leave scope⟩
  | .ok (.skipped reason) =>
      let skipped := (after.log .info ("skipped: " ++ reason)).emit
        (.stepSkipped task.name index reason)
      ⟨none, false, skipped.leave scope⟩
  | .error failure =>
      if step.bestEffort && !failure.isFatal then
        let text := failure.message
        let logged := after.log .warn ("failed, continuing: " ++ text)
        let warned := (logged.warn (warningText task.name index text)).emit
          (.stepWarning task.name index text)
        ⟨none, true, warned.leave scope⟩
      else
        let logged := after.log .error ("failed: " ++ failure.message)
        ⟨some (abortFailure task index failure), false, logged.leave scope⟩

/-- What the steps of a task leave behind. -/
structure StepsEnd (σ : Type u) where
  abort : Option Failure
  warnings : Nat
  progress : Progress σ

def runSteps (sequencer : Sequencer σ) (task : Task) :
    Nat → List Step → Nat → Progress σ → StepsEnd σ
  | _, [], warnings, progress => ⟨none, warnings, progress⟩
  | index, step :: rest, warnings, progress =>
      let ended := sequencer.runStep task index step progress
      let warnings := if ended.warned then warnings + 1 else warnings
      match ended.abort with
      | some failure => ⟨some failure, warnings, ended.progress⟩
      | none => runSteps sequencer task (index + 1) rest warnings ended.progress

def statusOf (warnings : Nat) : Status :=
  if warnings = 0 then .completed else .completedWithWarnings warnings

def runTask (sequencer : Sequencer σ) (task : Task) (progress : Progress σ) :
    Option Failure × Progress σ :=
  let started := (progress.log .info ("Task '" ++ task.name ++ "' started")).emit
    (.taskStarted task.name task.steps.length)
  let ended := sequencer.runSteps task 1 task.steps 0 started
  match ended.abort with
  | some failure => (some failure, finishTask task (.failed failure.message) ended.progress)
  | none => (none, finishTask task (statusOf ended.warnings) ended.progress)

def runTasks (sequencer : Sequencer σ) : List Task → Progress σ → Option Failure × Progress σ
  | [], progress => (none, progress)
  | task :: rest, progress =>
      match sequencer.runTask task progress with
      | (some failure, progress) => (some failure, progress)
      | (none, progress) => runTasks sequencer rest progress

/-- What outlives a run: the state of the executor and the report of the last run that was
accepted. -/
structure Session (σ : Type u) where
  state : σ
  report : Option Report

structure RunResult (σ : Type u) where
  value : Except Failure Report
  session : Session σ
  moments : List Moment

def plan (sequencer : Sequencer σ) (targets : List String) : Except Failure (List Task) :=
  sequencer.graph.resolve targets

def planText (plan : List Task) : String :=
  "Running " ++ toString plan.length ++ " task(s): " ++ " -> ".intercalate (plan.map Task.name)

def finishText (report : Report) : String :=
  "Run finished: " ++ toString report.tasks.length ++ " task(s), " ++
    toString report.warnings.length ++ " warning(s)"

/-- Runs the targets and all that they need, and tells the log tag that is in force afterwards.  An
undeclared target is refused before anything runs.  `outer` is the log tag in force around the run. -/
def runWithin (sequencer : Sequencer σ) (outer : Option Log.Tag) (targets : List String)
    (session : Session σ) : RunResult σ × Option Log.Tag :=
  match sequencer.plan targets with
  | .error failure => (⟨.error failure, session, []⟩, outer)
  | .ok plan =>
      let start : Progress σ := ⟨session.state, .start targets, outer, []⟩
      match sequencer.runTasks plan (start.log .info (planText plan)) with
      | (some failure, progress) =>
          (⟨.error failure, ⟨progress.state, some progress.report⟩, progress.moments⟩, progress.tag)
      | (none, progress) =>
          let report := progress.report.finish
          let finished := progress.log .info (finishText report)
          (⟨.ok report, ⟨finished.state, some report⟩, finished.moments⟩, finished.tag)

def run (sequencer : Sequencer σ) (outer : Option Log.Tag) (targets : List String)
    (session : Session σ) : RunResult σ :=
  (sequencer.runWithin outer targets session).1

def tagBehind (sequencer : Sequencer σ) (outer : Option Log.Tag) (targets : List String)
    (session : Session σ) : Option Log.Tag :=
  (sequencer.runWithin outer targets session).2

end Sequencer

end Groundwork
