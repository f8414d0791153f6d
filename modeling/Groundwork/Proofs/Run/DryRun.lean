import Groundwork.Proofs.Act
import Groundwork.Proofs.Run.Calls
import Groundwork.Run.Live

namespace Groundwork

/-! What a dry run tells of a real one.

Both executors resolve a step before anything else, and resolving looks at neither files nor children.
So a step that the dry run cannot resolve fails in the same way in the real run, before anything is done
for it: the real run ends no later than the dry one, and calls for a prefix of its steps.
-/

universe u

variable {σ τ : Type u}

namespace Executor

/-- Where one executor aborts whenever another does, it is called for a prefix of the calls of the
other; `retell` turns the calls of the one into those of the other. -/
theorem follow_calls_prefix {first : Executor σ} {second : Executor τ} (retell : Call → Call)
    (aborts : ∀ call state other, (second.attempt other (retell call)).aborts = true →
      (first.attempt state call).aborts = true)
    (calls : List Call) (state : σ) (other : τ) :
    (first.follow calls state).map (fun attempt => retell attempt.call) <+:
      (second.follow (calls.map retell) other).map Attempt.call := by
  induction calls generalizing state other with
  | nil => exact List.prefix_rfl
  | cons call rest ih =>
      rw [List.map_cons, follow, follow]
      by_cases ends : (first.attempt state call).aborts = true
      · rw [if_pos ends]
        split
        · exact List.cons_prefix_cons.mpr ⟨rfl, List.nil_prefix⟩
        · exact List.cons_prefix_cons.mpr ⟨rfl, List.nil_prefix⟩
      · have goes : ¬ (second.attempt other (retell call)).aborts = true :=
          fun aborting => ends (aborts call state other aborting)
        rw [if_neg ends, if_neg goes]
        exact List.cons_prefix_cons.mpr ⟨rfl, ih _ _⟩

theorem follow_attempt {executor : Executor σ} {calls : List Call} {state : σ}
    {before after : List (Attempt σ)} {attempt : Attempt σ}
    (split : executor.follow calls state = before ++ attempt :: after) :
    attempt.result =
      executor.execute attempt.step attempt.context (Attempt.stateAfter state before) := by
  induction calls generalizing state before with
  | nil => simp [follow] at split
  | cons call rest ih =>
      rw [follow] at split
      cases before with
      | nil =>
          have first : executor.attempt state call = attempt := by
            split at split
            · exact (List.cons.inj split).1
            · exact (List.cons.inj split).1
          rw [← first]
          rfl
      | cons head tail =>
          split at split
          · simp at split
          · obtain ⟨rfl, later⟩ := List.cons.inj split
            have start : attempt.result = executor.execute attempt.step attempt.context
                (Attempt.stateAfter (executor.attempt state call).result.state tail) := ih later
            exact start

end Executor

namespace Action

theorem resolve_timeout (action : Action) (context : StepContext) (timeout : Option Duration) :
    action.resolve { context with timeout } = action.resolve context := by
  cases action <;> rfl

end Action

namespace DryRun

/-- What a dry run puts down for a call: the resolved step, if the step can be resolved. -/
def planned? (call : Call) : Option Planned :=
  match call.1.action.resolve call.2 with
  | .error _ => none
  | .ok resolved => some ⟨call.2.task, resolved.shown⟩

theorem execute_value (step : Step) (context : StepContext) (plan : Plan) :
    (execute step context plan).value =
      (step.action.resolve context).map fun resolved =>
        .skipped ("dry run: " ++ resolved.shown) := by
  unfold execute
  split <;> next resolved => rw [resolved]; rfl

theorem execute_state (step : Step) (context : StepContext) (plan : Plan) :
    (execute step context plan).state = plan ++ (planned? (step, context)).toList := by
  unfold execute planned?
  split
  · next failed => simp [failed]
  · next resolved => simp [resolved]

theorem execute_error_iff {step : Step} {context : StepContext} {plan : Plan} {failure : Failure} :
    (execute step context plan).value = .error failure ↔
      step.action.resolve context = .error failure := by
  rw [execute_value]
  cases step.action.resolve context <;> simp [Except.map]

theorem stateAfter_follow (calls : List Call) (plan : Plan) :
    Attempt.stateAfter plan (executor.follow calls plan) =
      plan ++ ((executor.follow calls plan).map Attempt.call).filterMap planned? := by
  induction calls generalizing plan with
  | nil => simp [Executor.follow, Attempt.stateAfter]
  | cons call rest ih =>
      have state : (executor.attempt plan call).result.state = plan ++ (planned? call).toList :=
        execute_state call.1 call.2 plan
      have called : (executor.attempt plan call).call = call := rfl
      rw [Executor.follow]
      split
      · cases put : planned? call <;> simp [Attempt.stateAfter, state, called, put]
      · have next := ih (executor.attempt plan call).result.state
        rw [Attempt.stateAfter, List.foldl_cons, ← Attempt.stateAfter, next, List.map_cons, called]
        cases put : planned? call <;> simp [state, put]

end DryRun

namespace LiveRun

theorem execute_unresolved {host : Host} {step : Step} {context : StepContext} {machine : Machine}
    {failure : Failure} (unresolved : step.action.resolve context = .error failure) :
    execute host step context machine = ⟨.error failure, machine, []⟩ := by
  rw [execute, unresolved]
  rfl

end LiveRun

namespace Sequencer

/-- The dry run of what a sequencer runs; it sets no limit to a step. -/
def dry (sequencer : Sequencer σ) : Sequencer DryRun.Plan :=
  { sequencer with executor := DryRun.executor, timeout := none }

def dryCall (call : Call) : Call := (call.1, { call.2 with timeout := none })

variable (sequencer : Sequencer σ)

theorem schedule_dry (plan : List Task) :
    sequencer.dry.schedule plan = (sequencer.schedule plan).map dryCall := by
  simp only [schedule, callsFrom, List.map_flatMap, List.map_map]
  rfl

theorem call_eq_of_place {plan : List Task} (distinct : (plan.map Task.name).Nodup)
    {call other : Call} (scheduled : call ∈ sequencer.schedule plan)
    (otherScheduled : other ∈ sequencer.schedule plan) (task : call.2.task = other.2.task)
    (index : call.2.index = other.2.index) : call = other := by
  have keys := places_nodup distinct
  rw [← sequencer.places_schedule, List.map_map] at keys
  exact List.inj_on_of_nodup_map keys scheduled otherScheduled (Prod.ext task index)

theorem resolve_dryCall (call : Call) :
    (dryCall call).1.action.resolve (dryCall call).2 = call.1.action.resolve call.2 :=
  call.1.action.resolve_timeout call.2 none

theorem live_aborts {host : Host} (call : Call) (machine : Machine) (planned : DryRun.Plan)
    (aborting : (DryRun.executor.attempt planned (dryCall call)).aborts = true) :
    ((LiveRun.executor host).attempt machine call).aborts = true := by
  have result : (DryRun.executor.attempt planned (dryCall call)).result =
      DryRun.execute call.1 (dryCall call).2 planned := rfl
  cases value : (DryRun.execute call.1 (dryCall call).2 planned).value with
  | ok outcome => simp [Attempt.aborts, result, value] at aborting
  | error failure =>
      have unresolved : call.1.action.resolve call.2 = .error failure :=
        resolve_dryCall call ▸ DryRun.execute_error_iff.mp value
      have refused : ((LiveRun.executor host).attempt machine call).result =
          ⟨.error failure, machine, []⟩ := LiveRun.execute_unresolved unresolved
      simp only [Attempt.aborts, result, value] at aborting
      simp only [Attempt.aborts, refused]
      exact aborting

/-- Calls for the same step of a real run and of its dry run: where the dry one fails, the real one
has failed in the same way and left the machine as it was. -/
theorem live_refuses {sequencer : Sequencer Machine} {host : Host} {plan : List Task}
    (distinct : (plan.map Task.name).Nodup) {machine : Machine} {planned : DryRun.Plan}
    {before after : List (Attempt Machine)} {attempt : Attempt Machine}
    (split : (LiveRun.executor host).follow (sequencer.schedule plan) machine =
      before ++ attempt :: after)
    {dryAttempt : Attempt DryRun.Plan}
    (member : dryAttempt ∈ DryRun.executor.follow ((sequencer.schedule plan).map dryCall) planned)
    (task : dryAttempt.context.task = attempt.context.task)
    (index : dryAttempt.context.index = attempt.context.index) {failure : Failure}
    (failed : dryAttempt.result.value = .error failure) :
    attempt.result = ⟨.error failure, Attempt.stateAfter machine before, []⟩ := by
  have made := Executor.follow_prefix (LiveRun.executor host) (sequencer.schedule plan) machine
  have dryMade := Executor.follow_prefix DryRun.executor ((sequencer.schedule plan).map dryCall) planned
  have scheduled : attempt.call ∈ sequencer.schedule plan :=
    made.subset (List.mem_map_of_mem (by rw [split]; exact List.mem_append_right _ List.mem_cons_self))
  obtain ⟨call, callScheduled, same⟩ :=
    List.mem_map.mp (dryMade.subset (List.mem_map_of_mem (f := Attempt.call) member))
  have sameCall : call = attempt.call :=
    sequencer.call_eq_of_place distinct callScheduled scheduled
      ((congrArg (fun call : Call => call.2.task) same).trans task)
      ((congrArg (fun call : Call => call.2.index) same).trans index)
  obtain ⟨earlier, later, drySplit⟩ := List.append_of_mem member
  rw [Executor.follow_attempt drySplit] at failed
  have unresolved : attempt.step.action.resolve attempt.context = .error failure := by
    have dryUnresolved : dryAttempt.call.1.action.resolve dryAttempt.call.2 = .error failure :=
      DryRun.execute_error_iff.mp failed
    rw [← same, resolve_dryCall, sameCall] at dryUnresolved
    exact dryUnresolved
  rw [Executor.follow_attempt split]
  exact LiveRun.execute_unresolved unresolved

/-- The steps that a real run comes to are the first of those that the dry run comes to.  Where the
dry run fails at one of them, the real run has failed in the same way without having done anything for
it.  The plan of the dry run holds the steps that can be resolved, in order. -/
theorem dry_run_covers_live_run (sequencer : Sequencer Machine) (host : Host)
    (live : sequencer.executor = LiveRun.executor host) (outer : Option Log.Tag)
    (targets : List String) (session : Session Machine) (drySession : Session DryRun.Plan)
    (declared : ∀ target ∈ targets, sequencer.graph.contains target = true) :
    let calls := Moment.calls (sequencer.run outer targets session).moments
    let dryCalls := Moment.calls (sequencer.dry.run outer targets drySession).moments
    let attempts := sequencer.attempts outer targets session
    let dryAttempts := sequencer.dry.attempts outer targets drySession
    calls.map Call.place <+: dryCalls.map Call.place ∧
      attempts.map Attempt.call = calls ∧ dryAttempts.map Attempt.call = dryCalls ∧
      (∀ before attempt after, attempts = before ++ attempt :: after →
        ∀ dryAttempt ∈ dryAttempts, dryAttempt.context.task = attempt.context.task →
          dryAttempt.context.index = attempt.context.index →
          ∀ failure, dryAttempt.result.value = .error failure →
            attempt.result = ⟨.error failure, Attempt.stateAfter session.state before, []⟩) ∧
      (sequencer.dry.run outer targets drySession).session.state =
        drySession.state ++ dryCalls.filterMap DryRun.planned? := by
  intro calls dryCalls attempts dryAttempts
  obtain ⟨plan, resolved, distinct⟩ := TaskGraph.resolve_exists declared
  have dryResolved : sequencer.dry.graph.resolve targets = .ok plan := resolved
  have followed : attempts = (LiveRun.executor host).follow (sequencer.schedule plan)
      session.state := live ▸ attempts_run sequencer outer session resolved
  have dryFollowed : dryAttempts = DryRun.executor.follow
      ((sequencer.schedule plan).map dryCall) drySession.state :=
    sequencer.schedule_dry plan ▸ attempts_run sequencer.dry outer drySession dryResolved
  have made : attempts.map Attempt.call = calls := by
    rw [followed, ← live]
    exact (calls_run sequencer outer session resolved).symm
  have dryMade : dryAttempts.map Attempt.call = dryCalls := by
    rw [dryFollowed, ← schedule_dry]
    exact (calls_run sequencer.dry outer drySession dryResolved).symm
  refine ⟨?_, made, dryMade, ?_, ?_⟩
  · have first : attempts.map (fun attempt => dryCall attempt.call) <+:
        dryAttempts.map Attempt.call := by
      rw [followed, dryFollowed]
      exact Executor.follow_calls_prefix dryCall live_aborts _ _ _
    have places := first.map Call.place
    rw [List.map_map, dryMade] at places
    rw [← made, List.map_map]
    exact places
  · intro before attempt after split dryAttempt member task index failure failed
    rw [followed] at split
    rw [dryFollowed] at member
    exact live_refuses distinct split member task index failed
  · rw [← dryMade, dryFollowed, ← DryRun.stateAfter_follow, ← schedule_dry]
    have state := run_state sequencer.dry outer drySession dryResolved
    rw [attempts_passages] at state
    exact state

/-- A best-effort step with an undefined variable, a program that fails, and a step behind it. -/
def outage : Sequencer Machine where
  graph :=
    { tasks :=
        [⟨"reset", none, [],
          [⟨none, true, .remove "${CACHE}"⟩, ⟨none, false, .exec "stop" ["${NODE}"] none⟩,
            ⟨none, false, .remove "state"⟩]⟩]
      distinct := rfl
      declared := rfl
      orderable := rfl }
  executor := LiveRun.executor
    { bareHost with
      programs := fun _ _ store => .ok ⟨.ended (.exited 1), store, .empty, .empty⟩ }
  vars := .ofList [("NODE", "n1")]
  environment := .empty
  baseDirectory := "/work"
  timeout := none

theorem outage_dry_run :
    let session : Session Machine := ⟨⟨.empty, []⟩, none⟩
    let calls := Moment.calls (outage.run none ["reset"] session).moments
    let dryCalls := Moment.calls (outage.dry.run none ["reset"] ⟨[], none⟩).moments
    (∀ target ∈ ["reset"], outage.graph.contains target = true) ∧
      calls.map Call.place <+: dryCalls.map Call.place ∧
      calls.map (fun call => call.2.index) = [1, 2] ∧
      dryCalls.map (fun call => call.2.index) = [1, 2, 3] ∧
      (∃ attempt ∈ outage.attempts none ["reset"] session,
        attempt.result = ⟨.error (.undefinedVariable "CACHE"), ⟨.empty, []⟩, []⟩) ∧
      (outage.dry.run none ["reset"] ⟨[], none⟩).session.state =
        [⟨"reset", "stop n1"⟩, ⟨"reset", "remove /work/state"⟩] := by
  intro session calls dryCalls
  have declared : ∀ target ∈ ["reset"], outage.graph.contains target = true := by decide
  obtain ⟨covered, made, _, refused, planned⟩ :=
    outage.dry_run_covers_live_run _ rfl none ["reset"] session ⟨[], none⟩ declared
  have resolved : outage.graph.resolve ["reset"] = .ok outage.graph.tasks := rfl
  rw [attempts_run outage none session resolved] at made refused ⊢
  rw [attempts_run outage.dry none ⟨[], none⟩ resolved] at refused
  have first := refused [] _ _ rfl _ List.mem_cons_self rfl rfl (.undefinedVariable "CACHE") rfl
  have indices : calls.map (fun call => call.2.index) = [1, 2] := by
    rw [← show _ = calls from made]
    rfl
  exact ⟨declared, covered, indices, rfl, ⟨_, List.mem_cons_self, first⟩, planned.trans rfl⟩

end Sequencer

end Groundwork
