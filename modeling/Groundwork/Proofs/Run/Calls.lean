import Groundwork.Proofs.Graph.Plan
import Groundwork.Proofs.Run.Passages

namespace Groundwork

/-! The calls of a run: the steps of the plan one after another, up to the first that aborts. -/

universe u

variable {σ : Type u}

namespace Moment

theorem calls_append (earlier later : List Moment) :
    calls (earlier ++ later) = calls earlier ++ calls later :=
  List.filterMap_append

theorem calls_ofNotes (tag : Option Log.Tag) (notes : List Note) : calls (ofNotes tag notes) = [] := by
  simp [calls, ofNotes, call?]

theorem calls_attempt (attempt : Attempt σ) : calls attempt.moments = [attempt.call] := by
  have closing : calls attempt.closing = [] := by
    unfold Attempt.closing
    split
    · rfl
    · rfl
    · split <;> rfl
  rw [Attempt.moments, calls_append, calls_append, calls_ofNotes, closing]
  rfl

theorem calls_passage (outer : Option Log.Tag) (passage : Passage σ) :
    calls (passage.moments outer) = passage.attempts.map Attempt.call := by
  have inside : calls (passage.attempts.flatMap Attempt.moments) = passage.attempts.map Attempt.call := by
    induction passage.attempts with
    | nil => rfl
    | cons attempt rest ih =>
        rw [List.flatMap_cons, calls_append, calls_attempt, ih]
        rfl
  rw [Passage.moments, calls_append, calls_append, inside]
  change [] ++ _ ++ [] = _
  rw [List.nil_append, List.append_nil]

theorem calls_passages (outer : Option Log.Tag) (passages : List (Passage σ)) :
    calls (passages.flatMap (Passage.moments outer)) =
      (passages.flatMap Passage.attempts).map Attempt.call := by
  induction passages with
  | nil => rfl
  | cons passage rest ih =>
      rw [List.flatMap_cons, calls_append, calls_passage, ih, List.flatMap_cons, List.map_append]

end Moment

/-- Which step a call is for: the task, the place of the step counted from one, and the step. -/
def Call.place (call : Call) : String × Nat × Step := (call.2.task, call.2.index, call.1)

namespace Sequencer

/-- All steps of a plan in plan order and step order, each with its task and its place. -/
def places (plan : List Task) : List (String × Nat × Step) :=
  plan.flatMap fun task => (task.steps.zipIdx 1).map fun (step, index) => (task.name, index, step)

/-- The calls of a run made once more from the state before it: each with what it brought. -/
def attempts (sequencer : Sequencer σ) (outer : Option Log.Tag) (targets : List String)
    (session : Session σ) : List (Attempt σ) :=
  sequencer.executor.replay (Moment.calls (sequencer.run outer targets session).moments) session.state

variable (sequencer : Sequencer σ)

theorem places_schedule (plan : List Task) :
    (sequencer.schedule plan).map Call.place = places plan := by
  simp only [schedule, callsFrom, places, List.map_flatMap, List.map_map]
  rfl

theorem places_nodup {plan : List Task} (distinct : (plan.map Task.name).Nodup) :
    ((places plan).map fun place => (place.1, place.2.1)).Nodup := by
  have keys : (places plan).map (fun place => (place.1, place.2.1)) =
      plan.flatMap fun task => (List.range' 1 task.steps.length).map (Prod.mk task.name) := by
    simp only [places, List.map_flatMap, List.map_map, ← List.zipIdx_map_snd]
    rfl
  rw [keys, List.nodup_flatMap]
  refine ⟨fun task _ => List.Nodup.map (fun _ _ same => (Prod.mk.inj same).2) List.nodup_range', ?_⟩
  refine (List.pairwise_map.mp distinct).imp fun different => ?_
  intro key here there
  obtain ⟨_, _, rfl⟩ := List.mem_map.mp here
  obtain ⟨_, _, same⟩ := List.mem_map.mp there
  exact different (Prod.mk.inj same).1.symm

theorem calls_run {targets : List String} {plan : List Task} (outer : Option Log.Tag)
    (session : Session σ) (resolved : sequencer.graph.resolve targets = .ok plan) :
    Moment.calls (sequencer.run outer targets session).moments =
      (sequencer.executor.follow (sequencer.schedule plan) session.state).map Attempt.call := by
  rw [← attempts_passages, ← Moment.calls_passages outer]
  exact run_moments sequencer outer session resolved Moment.call? fun _ _ _ => rfl

theorem attempts_run {targets : List String} {plan : List Task} (outer : Option Log.Tag)
    (session : Session σ) (resolved : sequencer.graph.resolve targets = .ok plan) :
    sequencer.attempts outer targets session =
      sequencer.executor.follow (sequencer.schedule plan) session.state := by
  rw [attempts, calls_run sequencer outer session resolved, Executor.replay_follow]

theorem schedule_context {plan : List Task} {call : Call} (member : call ∈ sequencer.schedule plan) :
    call.2.vars = sequencer.vars ∧ call.2.baseDirectory = sequencer.baseDirectory ∧
      call.2.timeout = sequencer.timeout := by
  obtain ⟨task, _, scheduled⟩ := List.mem_flatMap.mp member
  obtain ⟨entry, _, rfl⟩ := List.mem_map.mp scheduled
  exact ⟨rfl, rfl, rfl⟩

/-- A run ends with the report of the attempt that aborts, and well when none does. -/
theorem run_value_attempts {targets : List String} {plan : List Task} (outer : Option Log.Tag)
    (session : Session σ) (resolved : sequencer.graph.resolve targets = .ok plan) :
    (sequencer.run outer targets session).value =
      ((sequencer.attempts outer targets session).findSome? Attempt.abort?).elim
        (.ok (reportOf targets (sequencer.passages plan session.state))) .error := by
  rw [attempts_run sequencer outer session resolved, ← attempts_passages, ← abort?_passages]
  exact run_value sequencer outer session resolved

theorem run_ok_iff {targets : List String} {plan : List Task} (outer : Option Log.Tag)
    (session : Session σ) (resolved : sequencer.graph.resolve targets = .ok plan) :
    (∃ report, (sequencer.run outer targets session).value = .ok report) ↔
      ∀ attempt ∈ sequencer.attempts outer targets session, attempt.aborts = false := by
  rw [run_value_attempts sequencer outer session resolved]
  simp only [← Attempt.abort?_eq_none, ← List.findSome?_eq_none_iff]
  cases (sequencer.attempts outer targets session).findSome? Attempt.abort? <;> simp

/-- A run calls the executor for the steps of the plan in their order, each at most once, with what
the sequencer was given, and stops behind the first call that aborts.  It succeeds exactly when no
call aborts; otherwise it returns an interrupt as it is and any other failure as that of its step. -/
theorem run_calls_until_abort (outer : Option Log.Tag) (targets : List String) (session : Session σ)
    (declared : ∀ target ∈ targets, sequencer.graph.contains target = true) :
    let result := sequencer.run outer targets session
    let calls := Moment.calls result.moments
    let attempts := sequencer.attempts outer targets session
    ∃ plan, sequencer.graph.resolve targets = .ok plan ∧
      calls.map Call.place <+: places plan ∧
      (calls.map fun call => (call.2.task, call.2.index)).Nodup ∧
      (∀ call ∈ calls, call.2.vars = sequencer.vars ∧
        call.2.baseDirectory = sequencer.baseDirectory ∧ call.2.timeout = sequencer.timeout) ∧
      attempts.map Attempt.call = calls ∧
      result.session.state = Attempt.stateAfter session.state attempts ∧
      ((∀ attempt ∈ attempts, attempt.aborts = false) → calls.map Call.place = places plan) ∧
      (∀ earlier attempt later, attempts = earlier ++ attempt :: later →
        attempt.aborts = true → later = []) ∧
      ((∃ report, result.value = .ok report) ↔ ∀ attempt ∈ attempts, attempt.aborts = false) ∧
      (∀ attempt ∈ attempts, ∀ failure, attempt.result.value = .error failure →
        attempt.aborts = true →
        result.value = .error (if failure = .interrupted then .interrupted
          else .stepFailed attempt.context.task attempt.context.index failure.message)) := by
  intro result calls attempts
  obtain ⟨plan, resolved, distinct⟩ := TaskGraph.resolve_exists declared
  have made : calls = _ := calls_run sequencer outer session resolved
  have followed : attempts = _ := attempts_run sequencer outer session resolved
  have scheduled : calls <+: sequencer.schedule plan := made ▸ Executor.follow_prefix ..
  have placed : calls.map Call.place <+: places plan :=
    sequencer.places_schedule plan ▸ scheduled.map Call.place
  have keys : (calls.map fun call => (call.2.task, call.2.index)).Nodup := by
    have keyed := (placed.map fun place => (place.1, place.2.1)).sublist.nodup
      (places_nodup distinct)
    rwa [List.map_map] at keyed
  refine ⟨plan, resolved, placed, keys, ?_, ?_, ?_, ?_, ?_, ?_, ?_⟩
  · exact fun call member => sequencer.schedule_context (scheduled.subset member)
  · rw [followed, made]
  · rw [followed, ← attempts_passages]
    exact run_state sequencer outer session resolved
  · intro passed
    rw [followed] at passed
    rw [made, Executor.follow_complete _ passed, places_schedule]
  · intro earlier attempt later split aborting
    rw [followed] at split
    exact Executor.follow_aborts_last _ split aborting
  · exact run_ok_iff sequencer outer session resolved
  · intro attempt member failure failed aborting
    have value : result.value = _ := run_value_attempts sequencer outer session resolved
    rw [attempts_run sequencer outer session resolved,
      Executor.findSome?_follow _ (followed ▸ member) aborting] at value
    simp only [Attempt.abort?, failed, aborting, ↓reduceIte, Option.elim_some] at value
    exact value

/-- Two tasks with best-effort steps, run by an executor that hands out prepared outcomes. -/
def rollout : Sequencer (List (Except Failure StepOutcome)) where
  graph :=
    { tasks :=
        [⟨"deploy", none, ["teardown"],
            [⟨none, true, .shell "apply" none⟩, ⟨none, false, .shell "verify" none⟩]⟩,
          ⟨"teardown", none, [], [⟨none, true, .remove "state"⟩, ⟨none, false, .remove "cache"⟩]⟩]
      distinct := rfl
      declared := rfl
      orderable := rfl }
  executor :=
    { execute := fun _ _ outcomes =>
        match outcomes with
        | [] => ⟨.ok .ran, [], []⟩
        | outcome :: rest => ⟨outcome, rest, []⟩ }
  vars := .empty
  environment := .empty
  baseDirectory := "/"
  timeout := none

/-- A warning, a step that is skipped and an interrupt of a best-effort step. -/
def interruptedRollout : Session (List (Except Failure StepOutcome)) :=
  ⟨[.error (.missingTools ["kubectl"]), .ok (.skipped "cache does not exist"), .error .interrupted],
    none⟩

theorem rollout_calls_until_interrupt :
    (∀ target ∈ ["deploy"], rollout.graph.contains target = true) ∧
      (Moment.calls (rollout.run none ["deploy"] interruptedRollout).moments).map
        (fun call => (call.2.task, call.2.index)) = [("teardown", 1), ("teardown", 2), ("deploy", 1)] ∧
      (rollout.run none ["deploy"] interruptedRollout).value = .error .interrupted := by
  have declared : ∀ target ∈ ["deploy"], rollout.graph.contains target = true := by decide
  obtain ⟨_, _, _, _, _, _, _, _, _, _, ended⟩ :=
    rollout.run_calls_until_abort none ["deploy"] interruptedRollout declared
  have interrupt : ∃ attempt ∈ rollout.attempts none ["deploy"] interruptedRollout,
      attempt.result.value = .error .interrupted ∧ attempt.aborts = true :=
    ⟨_, List.mem_cons_of_mem _ (List.mem_cons_of_mem _ List.mem_cons_self), rfl, rfl⟩
  obtain ⟨attempt, attempted, failed, aborting⟩ := interrupt
  exact ⟨declared, rfl, ended attempt attempted .interrupted failed aborting⟩

end Sequencer

end Groundwork
