import Groundwork.Proofs.Run.Events

namespace Groundwork.Sequencer

/-! Runs of one sequencer, one after another.

Two things outlive a run: the state of the executor, and the report of the last run that was accepted.
No run reads that report, so that each is as it would be on a sequencer that has made no run before.
-/

universe u

variable {σ : Type u}

/-- What is to be run, and the log tag in force around it. -/
structure Request where
  outer : Option Log.Tag
  targets : List String

structure Turn (σ : Type u) where
  request : Request
  before : Session σ
  result : RunResult σ

def succession (sequencer : Sequencer σ) : List Request → Session σ → List (Turn σ)
  | [], _ => []
  | request :: rest, session =>
      let result := sequencer.run request.outer request.targets session
      ⟨request, session, result⟩ :: succession sequencer rest result.session

def sessionAfter (session : Session σ) (turns : List (Turn σ)) : Session σ :=
  turns.foldl (fun _ turn => turn.result.session) session

/-- The run that a sequencer makes which has made none before. -/
def firstRun (sequencer : Sequencer σ) (request : Request) (state : σ) : RunResult σ :=
  sequencer.run request.outer request.targets ⟨state, none⟩

variable (sequencer : Sequencer σ)

/-- The report of a turn, where the run was accepted. -/
def ownReport? (turn : Turn σ) : Option Report :=
  (sequencer.firstRun turn.request turn.before.state).session.report

/-- A run takes the state of the executor from the session and nothing else; a report that was
stored before comes through only where the run stores none. -/
theorem run_eq_firstRun (request : Request) (session : Session σ) :
    sequencer.run request.outer request.targets session =
      let first := sequencer.firstRun request session.state
      { first with
        session := ⟨first.session.state, first.session.report.or session.report⟩ } := by
  cases planned : sequencer.graph.resolve request.targets with
  | error failure =>
      rw [firstRun, run_refused sequencer request.outer _ planned,
        run_refused sequencer request.outer _ planned]
      rfl
  | ok plan =>
      simp only [firstRun, run_eq sequencer request.outer _ planned, Option.some_or]

theorem run_accepted {request : Request} {plan : List Task} (session : Session σ)
    (resolved : sequencer.graph.resolve request.targets = .ok plan) :
    sequencer.run request.outer request.targets session =
      sequencer.firstRun request session.state := by
  rw [firstRun, run_eq sequencer request.outer _ resolved, run_eq sequencer request.outer _ resolved]

theorem requests_succession (requests : List Request) (session : Session σ) :
    (sequencer.succession requests session).map Turn.request = requests := by
  induction requests generalizing session with
  | nil => rfl
  | cons request rest ih => exact congrArg (request :: ·) (ih _)

theorem turn_of_succession {requests : List Request} {session : Session σ} {earlier later : List (Turn σ)}
    {turn : Turn σ} (split : sequencer.succession requests session = earlier ++ turn :: later) :
    turn.before = sessionAfter session earlier ∧
      turn.result = sequencer.run turn.request.outer turn.request.targets turn.before := by
  induction requests generalizing session earlier with
  | nil => simp [succession] at split
  | cons request rest ih =>
      cases earlier with
      | nil =>
          obtain ⟨rfl, _⟩ := List.cons.inj split
          exact ⟨rfl, rfl⟩
      | cons first others =>
          obtain ⟨rfl, tail⟩ := List.cons.inj split
          have behind := ih tail
          exact behind

theorem report_sessionAfter {requests : List Request} {session : Session σ}
    {earlier later : List (Turn σ)}
    (split : sequencer.succession requests session = earlier ++ later) :
    (sessionAfter session earlier).report =
      (earlier.reverse.findSome? sequencer.ownReport?).or session.report := by
  induction requests generalizing session earlier with
  | nil =>
      obtain ⟨rfl, _⟩ := List.nil_eq_append_iff.mp split
      rfl
  | cons request rest ih =>
      cases earlier with
      | nil => rfl
      | cons first others =>
          obtain ⟨rfl, tail⟩ := List.cons.inj split
          have stored := ih tail
          have own : (sequencer.run request.outer request.targets session).session.report =
              (sequencer.ownReport? ⟨request, session,
                sequencer.run request.outer request.targets session⟩).or session.report := by
            rw [run_eq_firstRun]
            rfl
          rw [own, ← Option.or_assoc] at stored
          rw [List.reverse_cons, List.findSome?_append, List.findSome?_singleton]
          exact stored

/-- The events of an accepted run rebuild its report, which holds nothing else. -/
theorem record_firstRun {request : Request} {plan : List Task} (state : σ)
    (resolved : sequencer.graph.resolve request.targets = .ok plan) :
    ∃ report, (sequencer.firstRun request state).session.report = some report ∧
      report.targets = request.targets ∧ report.executed <+: plan.map Task.name ∧
      (Moment.events (sequencer.firstRun request state).moments).foldl Event.record
        (.start request.targets) = { report with finished := false } := by
  refine ⟨_, run_report sequencer request.outer ⟨state, none⟩ resolved, rfl, ?_, ?_⟩
  · have started := (sequencer.tasks_passages_prefix plan state).map Task.name
    rw [List.map_map] at started
    simp only [reportOf, Report.executed, List.map_map]
    exact started
  · rw [firstRun, events_run sequencer request.outer _ resolved, Event.record_passages]
    simp [Report.start, reportOf]

/-- Runs of one sequencer do not reach into each other.  A run that is refused leaves everything as
it was and has nothing happen.  One that is accepted is, with its calls, events, log, result and
report, that of a sequencer that has made no run before, and its report holds what happened in it. -/
theorem succession_independent (requests : List Request) (session : Session σ) :
    let turns := sequencer.succession requests session
    turns.map Turn.request = requests ∧
      ∀ earlier turn later, turns = earlier ++ turn :: later →
        turn.before = sessionAfter session earlier ∧
        turn.before.report =
          (earlier.reverse.findSome? sequencer.ownReport?).or session.report ∧
        ((∀ target ∈ turn.request.targets, sequencer.graph.contains target = true) →
          turn.result = sequencer.firstRun turn.request turn.before.state ∧
          ∃ plan report, sequencer.graph.resolve turn.request.targets = .ok plan ∧
            turn.result.session.report = some report ∧
            report.targets = turn.request.targets ∧
            report.executed <+: plan.map Task.name ∧
            (Moment.events turn.result.moments).foldl Event.record (.start turn.request.targets) =
              { report with finished := false }) ∧
        ((∃ target ∈ turn.request.targets, sequencer.graph.contains target = false) →
          ∃ target ∈ turn.request.targets, sequencer.graph.contains target = false ∧
            turn.result = ⟨.error (.unknownTask target), turn.before, []⟩) := by
  intro turns
  refine ⟨requests_succession sequencer requests session, fun earlier turn later split => ?_⟩
  obtain ⟨before, result⟩ := turn_of_succession sequencer split
  refine ⟨before, ?_, fun declared => ?_, fun ⟨target, asked, missing⟩ => ?_⟩
  · rw [before]
    exact report_sessionAfter sequencer split
  · obtain ⟨plan, resolved, _⟩ := TaskGraph.resolve_exists declared
    have same := result.trans (run_accepted sequencer turn.before resolved)
    obtain ⟨report, stored, targets, executed, recorded⟩ :=
      record_firstRun sequencer turn.before.state resolved
    exact ⟨same, plan, report, resolved, same ▸ stored, targets, executed, same ▸ recorded⟩
  · have undeclared : ¬ ∀ target ∈ turn.request.targets,
        target ∈ sequencer.graph.tasks.map Task.name := by
      intro declared
      rw [sequencer.graph.contains_iff.mpr (declared target asked)] at missing
      contradiction
    obtain ⟨first, listed, absent, refused⟩ := TaskGraph.resolve_undeclared undeclared
    refine ⟨first, listed, ?_, result.trans (run_refused sequencer turn.request.outer _ refused)⟩
    exact Bool.eq_false_iff.mpr fun present => absent (sequencer.graph.contains_iff.mp present)

/-- A run that is interrupted, one that is refused and one that succeeds. -/
theorem rollout_turns_apart :
    ∃ first second third,
      rollout.succession [⟨none, ["deploy"]⟩, ⟨none, ["teardown", "restore"]⟩, ⟨none, ["teardown"]⟩]
        interruptedRollout = [first, second, third] ∧
      first.result.value = .error .interrupted ∧
      second.result = ⟨.error (.unknownTask "restore"), first.result.session, []⟩ ∧
      second.result.session.report.map Report.executed = some ["teardown", "deploy"] ∧
      third.result = rollout.firstRun ⟨none, ["teardown"]⟩ [] ∧
      third.result.session.report.map Report.executed = some ["teardown"] := by
  obtain ⟨_, apart⟩ := rollout.succession_independent
    [⟨none, ["deploy"]⟩, ⟨none, ["teardown", "restore"]⟩, ⟨none, ["teardown"]⟩] interruptedRollout
  obtain ⟨_, _, _, refused⟩ := apart [_] _ [_] rfl
  obtain ⟨_, _, accepted, _⟩ := apart [_, _] _ [] rfl
  obtain ⟨target, asked, missing, unchanged⟩ := refused ⟨"restore", by simp, rfl⟩
  obtain ⟨same, _⟩ := accepted (by simp; rfl)
  have named : target = "restore" := by
    rcases List.mem_pair.mp asked with rfl | rfl
    · contradiction
    · rfl
  exact ⟨_, _, _, rfl, rfl, named ▸ unchanged, rfl, same, rfl⟩

end Groundwork.Sequencer
