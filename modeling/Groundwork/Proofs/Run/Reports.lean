import Groundwork.Proofs.Run.Calls
import Mathlib.Algebra.GroupWithZero.Nat

namespace Groundwork.Sequencer

/-! The report of a run agrees with its result and with what its calls brought. -/

universe u

variable {σ : Type u}

/-- How many best-effort steps of the task failed. -/
def failuresIn (attempts : List (Attempt σ)) (task : Task) : Nat :=
  attempts.countP fun attempt => attempt.context.task == task.name && attempt.effortFailed

/-- How a task ends that is not aborted. -/
def ending (attempts : List (Attempt σ)) (task : Task) : Status :=
  if failuresIn attempts task = 0 then .completed
  else .completedWithWarnings (failuresIn attempts task)

theorem attempts_named {sequencer : Sequencer σ} {plan : List Task} {state : σ} {passage : Passage σ}
    (member : passage ∈ sequencer.passages plan state) :
    ∀ attempt ∈ passage.attempts, attempt.context.task = passage.task.name := by
  obtain ⟨task, _, before, rfl⟩ := sequencer.mem_passages member
  intro attempt attempted
  have followed : (sequencer.passage task before).attempts.map Attempt.call <+:
      sequencer.callsFrom task 1 task.steps := sequencer.executor.follow_prefix _ _
  obtain ⟨entry, _, called⟩ :=
    List.mem_map.mp (followed.subset (List.mem_map_of_mem (f := Attempt.call) attempted))
  exact (congrArg (fun call => call.2.task) called).symm

theorem countP_own {attempts : List (Attempt σ)} {name : String} (test : Attempt σ → Bool)
    (named : ∀ attempt ∈ attempts, attempt.context.task = name) :
    attempts.countP (fun attempt => attempt.context.task == name && test attempt) =
      attempts.countP test :=
  List.countP_congr fun attempt member => by simp [named attempt member]

theorem countP_other {attempts : List (Attempt σ)} {name : String} (test : Attempt σ → Bool)
    (named : ∀ attempt ∈ attempts, attempt.context.task ≠ name) :
    attempts.countP (fun attempt => attempt.context.task == name && test attempt) = 0 :=
  List.countP_eq_zero.mpr fun attempt member => by simp [named attempt member]

/-- Tasks differ by name, so that what is counted under a name belongs to one passage. -/
theorem countP_passages {passages : List (Passage σ)} {passage : Passage σ}
    (distinct : (passages.map fun passage => passage.task.name).Nodup)
    (named : ∀ passage ∈ passages, ∀ attempt ∈ passage.attempts,
      attempt.context.task = passage.task.name)
    (member : passage ∈ passages) (test : Attempt σ → Bool) :
    (passages.flatMap Passage.attempts).countP
        (fun attempt => attempt.context.task == passage.task.name && test attempt) =
      passage.attempts.countP test := by
  induction passages with
  | nil => simp at member
  | cons first rest ih =>
      obtain ⟨fresh, distinct⟩ := List.nodup_cons.mp distinct
      have firstNamed := named first List.mem_cons_self
      have restNamed := fun other inRest => named other (List.mem_cons_of_mem first inRest)
      have apart : ∀ other ∈ rest, other.task.name ≠ first.task.name := fun other inRest same =>
        fresh (List.mem_map.mpr ⟨other, inRest, same⟩)
      rw [List.flatMap_cons, List.countP_append]
      rcases List.mem_cons.mp member with rfl | later
      · have others : ∀ attempt ∈ rest.flatMap Passage.attempts,
            attempt.context.task ≠ passage.task.name := by
          intro attempt attempted
          obtain ⟨other, inRest, inside⟩ := List.mem_flatMap.mp attempted
          rw [restNamed other inRest attempt inside]
          exact apart other inRest
        rw [countP_own test firstNamed, countP_other test others, Nat.add_zero]
      · have others : ∀ attempt ∈ first.attempts, attempt.context.task ≠ passage.task.name := by
          intro attempt attempted
          rw [firstNamed attempt attempted]
          exact (apart passage later).symm
        rw [countP_other test others, Nat.zero_add, ih distinct restNamed later]

/-- Where a task is not aborted, its warnings are the failures of its best-effort steps. -/
theorem warnings_length {passage : Passage σ} (passed : passage.abort? = none) :
    passage.warnings.length = passage.attempts.countP Attempt.effortFailed := by
  rw [Passage.warnings, List.length_filterMap_eq_countP]
  refine List.countP_congr fun attempt member => ?_
  have going := Attempt.abort?_eq_none.mp (List.findSome?_eq_none_iff.mp passed attempt member)
  rw [Attempt.warning?_isSome going]

theorem failuresIn_passage {sequencer : Sequencer σ} {plan : List Task} {state : σ}
    {passage : Passage σ} (distinct : (plan.map Task.name).Nodup)
    (member : passage ∈ sequencer.passages plan state) :
    failuresIn ((sequencer.passages plan state).flatMap Passage.attempts) passage.task =
      passage.attempts.countP Attempt.effortFailed := by
  refine countP_passages ?_ (fun _ inside => attempts_named inside) member Attempt.effortFailed
  have tasks := (sequencer.tasks_passages_prefix plan state).map Task.name
  rw [List.map_map] at tasks
  exact tasks.sublist.nodup distinct

theorem report_passage {sequencer : Sequencer σ} {plan : List Task} {state : σ}
    {passage : Passage σ} (distinct : (plan.map Task.name).Nodup)
    (member : passage ∈ sequencer.passages plan state) (passed : passage.abort? = none) :
    passage.report = ⟨passage.task.name,
      ending ((sequencer.passages plan state).flatMap Passage.attempts) passage.task⟩ := by
  rw [Passage.report, Passage.status_passed passed, warnings_length passed, ending, failuresIn_passage distinct member,
    statusOf]

theorem isFailed_status (passage : Passage σ) : passage.status.isFailed = passage.abort?.isSome := by
  cases aborted : passage.abort? with
  | some failure =>
      rw [Passage.status_aborted aborted]
      rfl
  | none =>
      rw [Passage.status_passed aborted, statusOf]
      split <;> rfl

theorem isSuccess_reportOf {targets : List String} {passages : List (Passage σ)} :
    (reportOf targets passages).isSuccess = true ↔ passages.findSome? Passage.abort? = none := by
  have failed : (reportOf targets passages).tasks.any (fun task => task.status.isFailed) =
      passages.any fun passage => passage.abort?.isSome := by
    simp only [reportOf, List.any_map]
    exact congrArg passages.any (funext isFailed_status)
  rw [Report.isSuccess, failed, ← List.isSome_findSome?, reportOf]
  cases passages.findSome? Passage.abort? <;> simp

theorem warnings_reportOf (targets : List String) (passages : List (Passage σ)) :
    (reportOf targets passages).warnings =
      (passages.flatMap Passage.attempts).filterMap Attempt.warning? :=
  List.filterMap_flatMap.symm

theorem report_completed {sequencer : Sequencer σ} (targets : List String) {plan : List Task}
    {state : σ} (distinct : (plan.map Task.name).Nodup)
    (passed : (sequencer.passages plan state).findSome? Passage.abort? = none) :
    let passages := sequencer.passages plan state
    let attempts := passages.flatMap Passage.attempts
    (reportOf targets passages).tasks = plan.map (fun task => ⟨task.name, ending attempts task⟩) ∧
      (reportOf targets passages).warnings.length = (plan.map (failuresIn attempts)).sum := by
  intro passages attempts
  have tasks : passages.map Passage.task = plan := sequencer.tasks_passages passed
  have going := List.findSome?_eq_none_iff.mp passed
  constructor
  · rw [← tasks, List.map_map]
    exact List.map_congr_left fun passage member => report_passage distinct member (going passage member)
  · rw [reportOf, List.length_flatMap, ← tasks, List.map_map]
    refine congrArg List.sum (List.map_congr_left fun passage member => ?_)
    rw [warnings_length (going passage member), Function.comp_apply, failuresIn_passage distinct member]

theorem report_aborted {sequencer : Sequencer σ} (targets : List String) {plan : List Task}
    {state : σ} {failure : Failure} (distinct : (plan.map Task.name).Nodup)
    (aborted : (sequencer.passages plan state).findSome? Passage.abort? = some failure) :
    let passages := sequencer.passages plan state
    let attempts := passages.flatMap Passage.attempts
    ∃ before task after earlier aborting, plan = before ++ task :: after ∧
      attempts = earlier ++ [aborting] ∧ (∀ attempt ∈ earlier, attempt.aborts = false) ∧
      aborting.aborts = true ∧ aborting.context.task = task.name ∧
      (reportOf targets passages).tasks =
        before.map (fun task => ⟨task.name, ending attempts task⟩) ++
          [⟨task.name, .failed failure.message⟩] := by
  intro passages attempts
  obtain ⟨before, last, split, passed, reported⟩ := sequencer.passages_aborted aborted
  obtain ⟨after, tasks⟩ := sequencer.tasks_passages_prefix plan state
  have members : ∀ passage ∈ before ++ [last], passage ∈ sequencer.passages plan state := by
    rw [split]
    exact fun _ member => member
  have lastMember := members last (by simp)
  obtain ⟨aborting, attempted, raised⟩ := List.exists_of_findSome?_eq_some reported
  have raises : aborting.aborts = true := by rw [← Attempt.abort?_isSome, raised]; rfl
  have followed : attempts = sequencer.executor.follow (sequencer.schedule plan) state :=
    sequencer.attempts_passages plan state
  have inside : aborting ∈ sequencer.executor.follow (sequencer.schedule plan) state := by
    rw [← followed]
    exact List.mem_flatMap.mpr ⟨last, lastMember, attempted⟩
  obtain ⟨earlier, attemptsSplit, going⟩ := sequencer.executor.follow_eq_concat inside raises
  refine ⟨before.map Passage.task, last.task, after, earlier, aborting, ?_, ?_, going, raises,
    attempts_named lastMember aborting attempted, ?_⟩
  · rw [← tasks, split]
    simp
  · rw [followed, attemptsSplit]
  · have lastReport : last.report = ⟨last.task.name, .failed failure.message⟩ := by
      rw [Passage.report, Passage.status_aborted reported]
    have reports : before.map Passage.report =
        before.map fun passage => ⟨passage.task.name, ending attempts passage.task⟩ :=
      List.map_congr_left fun passage member => report_passage distinct
        (members passage (List.mem_append_left _ member)) (passed passage member)
    simp only [reportOf, passages, split, List.map_append, List.map_cons, List.map_nil, lastReport,
      List.map_map]
    rw [reports]
    rfl

/-- A run stores a report that agrees with its result.  The report of a run that succeeds is returned
and finished, and holds every task of the plan with its warnings; that of a run that fails is not
finished, and holds the plan up to the task of the call that aborted, which alone is failed. -/
theorem run_report_agrees (sequencer : Sequencer σ) (outer : Option Log.Tag) (targets : List String)
    (session : Session σ) (declared : ∀ target ∈ targets, sequencer.graph.contains target = true) :
    let result := sequencer.run outer targets session
    let attempts := sequencer.attempts outer targets session
    ∃ plan report, sequencer.graph.resolve targets = .ok plan ∧
      result.session.report = some report ∧
      report.warnings = attempts.filterMap Attempt.warning? ∧
      (report.isSuccess = true ↔ ∃ returned, result.value = .ok returned) ∧
      (∀ returned, result.value = .ok returned →
        returned = report ∧ report.finished = true ∧
        report.tasks = plan.map (fun task => ⟨task.name, ending attempts task⟩) ∧
        report.warnings.length = (plan.map (failuresIn attempts)).sum) ∧
      (∀ failure, result.value = .error failure →
        report.finished = false ∧
        ∃ before task after earlier aborting, plan = before ++ task :: after ∧
          attempts = earlier ++ [aborting] ∧ (∀ attempt ∈ earlier, attempt.aborts = false) ∧
          aborting.aborts = true ∧ aborting.context.task = task.name ∧
          report.tasks = before.map (fun task => ⟨task.name, ending attempts task⟩) ++
            [⟨task.name, .failed failure.message⟩]) := by
  intro result attempts
  obtain ⟨plan, resolved, distinct⟩ := TaskGraph.resolve_exists declared
  have followed : attempts = (sequencer.passages plan session.state).flatMap Passage.attempts := by
    rw [attempts_passages]
    exact attempts_run sequencer outer session resolved
  have value : result.value = _ := run_value sequencer outer session resolved
  rw [followed]
  refine ⟨plan, _, resolved, run_report sequencer outer session resolved, warnings_reportOf _ _,
    ?_, ?_, ?_⟩
  · rw [isSuccess_reportOf, value]
    cases (sequencer.passages plan session.state).findSome? Passage.abort? <;> simp
  · intro returned ok
    cases passed : (sequencer.passages plan session.state).findSome? Passage.abort? with
    | some failure => simp [value, passed] at ok
    | none =>
        simp only [value, passed, Option.elim_none, Except.ok.injEq] at ok
        obtain ⟨tasks, count⟩ := report_completed targets distinct passed
        exact ⟨ok.symm, by simp [reportOf, passed], tasks, count⟩
  · intro failure failed
    cases aborted : (sequencer.passages plan session.state).findSome? Passage.abort? with
    | none => simp [value, aborted] at failed
    | some reported =>
        simp only [value, aborted, Option.elim_some, Except.error.injEq] at failed
        subst failed
        exact ⟨by simp [reportOf, aborted], report_aborted targets distinct aborted⟩

theorem rollout_report_interrupted :
    (∀ target ∈ ["deploy"], rollout.graph.contains target = true) ∧
      ∃ report, (rollout.run none ["deploy"] interruptedRollout).session.report = some report ∧
        report.isSuccess = false ∧ report.finished = false ∧
        report.warnings = ["teardown step 1: " ++ (Failure.missingTools ["kubectl"]).message] ∧
        report.tasks = [⟨"teardown", .completedWithWarnings 1⟩,
          ⟨"deploy", .failed Failure.interrupted.message⟩] := by
  have declared : ∀ target ∈ ["deploy"], rollout.graph.contains target = true := by decide
  have failed : (rollout.run none ["deploy"] interruptedRollout).value = .error .interrupted := rfl
  obtain ⟨plan, report, _, stored, warned, success, _, aborted⟩ :=
    run_report_agrees rollout none ["deploy"] interruptedRollout declared
  obtain ⟨unfinished, _⟩ := aborted _ failed
  have tasks : (rollout.run none ["deploy"] interruptedRollout).session.report.map Report.tasks =
      some [⟨"teardown", .completedWithWarnings 1⟩,
        ⟨"deploy", .failed Failure.interrupted.message⟩] := rfl
  rw [stored] at tasks
  refine ⟨declared, report, stored, ?_, unfinished, warned, Option.some.inj tasks⟩
  rw [failed] at success
  simpa using success

end Groundwork.Sequencer
