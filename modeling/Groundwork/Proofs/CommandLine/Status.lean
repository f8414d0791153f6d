import Groundwork.CommandLine.Session
import Groundwork.Proofs.CommandLine.Preparation
import Groundwork.Proofs.Run.Calls
import Groundwork.Proofs.Run.Operations

namespace Groundwork

/-! How a run that is asked for on the command line ends.

A run that is rejected ends before its first step, with status 1 and without output.  The status of any
other run follows from its attempts, and its report is printed behind what its steps have printed.
-/

namespace Moment

def printed? (moment : Moment) : Option ByteArray :=
  match moment.occurrence with
  | .noted note => note.printed?
  | _ => none

def printed (moments : List Moment) : ByteArray :=
  (moments.filterMap printed?).foldr (· ++ ·) .empty

theorem printed_cons (moment : Moment) (rest : List Moment) :
    printed (moment :: rest) = (moment.printed?.getD .empty) ++ printed rest := by
  cases shown : moment.printed? <;> simp [printed, shown]

theorem printed_append (earlier later : List Moment) :
    printed (earlier ++ later) = printed earlier ++ printed later := by
  induction earlier with
  | nil => simp [printed]
  | cons moment rest ih =>
      rw [List.cons_append, printed_cons, ih, printed_cons, ByteArray.append_assoc]

theorem printed_ofNotes {notes : List Note} (tag : Option Log.Tag)
    (silent : ∀ note ∈ notes, note.printed? = none) : printed (ofNotes tag notes) = .empty := by
  have nothing : (ofNotes tag notes).filterMap printed? = [] := by
    simpa [ofNotes, printed?] using silent
  rw [printed, nothing]
  rfl

end Moment

theorem Attempt.abort?_of_aborts {σ : Type u} {attempt : Attempt σ} (aborting : attempt.aborts = true) :
    ∃ failure, attempt.abort? = some failure ∧
      (failure = .interrupted ↔ attempt.result.value = .error .interrupted) := by
  unfold abort?
  cases value : attempt.result.value with
  | ok outcome => simp [aborts, value] at aborting
  | error failure =>
      by_cases interrupt : failure = .interrupted
      · simp [aborting, interrupt]
      · simp [aborting, interrupt]

theorem Sequencer.run_value_aborted {σ : Type u} (sequencer : Sequencer σ) {targets : List String}
    {plan : List Task} (outer : Option Log.Tag) (session : Session σ)
    (resolved : sequencer.graph.resolve targets = .ok plan) {attempt : Attempt σ}
    (member : attempt ∈ sequencer.attempts outer targets session) (aborting : attempt.aborts = true)
    {failure : Failure} (aborted : attempt.abort? = some failure) :
    (sequencer.run outer targets session).value = .error failure := by
  have followed := attempts_run sequencer outer session resolved
  rw [run_value_attempts sequencer outer session resolved, followed,
    Executor.findSome?_follow _ (followed ▸ member) aborting, aborted]
  rfl

namespace CommandLine

namespace Session

theorem terminal_printed (steps : Nat) (moments : List Moment) :
    (terminal steps moments).1 = Moment.printed moments := by
  induction moments generalizing steps with
  | nil => rfl
  | cons moment rest ih =>
      rw [Moment.printed_cons]
      unfold terminal Moment.printed?
      split
      · next event happened => simp [happened, ih]
      · next bytes happened => simp [happened, ih, Note.printed?]
      · next bytes happened => simp [happened, ih, Note.printed?]
      · next notEvent notPrinted notComplained =>
          cases happened : moment.occurrence with
          | event event => exact absurd happened (notEvent event)
          | called step context => simp [ih]
          | noted note =>
              cases note with
              | printed bytes => exact absurd happened (notPrinted bytes)
              | complained bytes => exact absurd happened (notComplained bytes)
              | logged level text => simp [ih, Note.printed?]

theorem finish_printed (log : Log) (outcome : Outcome) :
    (finish log outcome).printed =
      Moment.printed outcome.moments ++ ((outcome.reported.map reportText).getD "").toUTF8 := by
  have quiet : Moment.printed (endMoments log outcome.value) = .empty := by
    cases outcome.value with
    | ok => rfl
    | error failure => rfl
  simp only [finish, terminal_printed, Moment.printed_append, quiet, ByteArray.append_empty]

theorem openLog_silent (directory : String) (machine : Machine) :
    (openLog directory machine).notes = [] := by
  have silent : Act.Obeys .silent (do
      Store.makeDirectories directory
      let path := Path.join directory Groundwork.Log.fileName
      Act.change (Store.writeText "" path)
      return path) :=
    .bind (Store.makeDirectories_obeys (fun _ => rfl) (fun _ _ => trivial) _) fun _ =>
      .bind (.change _ (fun _ => rfl) fun _ _ => trivial) fun _ => .pure _
  exact List.eq_nil_iff_forall_not_mem.mpr (silent machine.store).voices

theorem startLog_silent (host : Host) (debug : Bool) (machine : Machine) :
    (∃ log, (startLog host debug machine).value = .ok log) ∧
      ∀ note ∈ (startLog host debug machine).notes, note.printed? = none := by
  unfold startLog
  cases Config.directory? host.home with
  | error failure => exact ⟨⟨_, rfl⟩, List.forall_mem_nil _⟩
  | ok directory =>
      have silent := openLog_silent directory machine
      cases opened : (openLog directory machine).value with
      | ok path =>
          simp [bind, Act.andThen, Act.attempt, opened, silent, pure, Act.done]
      | error failure =>
          simp [bind, Act.andThen, Act.attempt, opened, silent, pure, Act.done, Act.note,
            complainNote, Note.printed?]

theorem exitStatus_of_ne {failure : Failure} (uninterrupted : failure ≠ .interrupted) :
    exitStatus (.error failure) = 1 := by
  cases failure with
  | interrupted => contradiction
  | _ => rfl

section

variable {σ : Type u} (sequencer : Sequencer σ) {targets : List String} {plan : List Task}
  (outer : Option Groundwork.Log.Tag) (session : Sequencer.Session σ)
  (resolved : sequencer.graph.resolve targets = .ok plan)

include resolved

theorem exitStatus_of_passed
    (passed : ∀ attempt ∈ sequencer.attempts outer targets session, attempt.aborts = false) :
    exitStatus ((sequencer.run outer targets session).value.map fun _ => ()) = 0 := by
  obtain ⟨report, succeeded⟩ := (sequencer.run_ok_iff outer session resolved).mpr passed
  rw [succeeded]
  rfl

theorem exitStatus_of_aborts {attempt : Attempt σ}
    (member : attempt ∈ sequencer.attempts outer targets session) (aborting : attempt.aborts = true) :
    let status := exitStatus ((sequencer.run outer targets session).value.map fun _ => ())
    status = 130 ∧ attempt.result.value = .error .interrupted ∨
      status = 1 ∧ attempt.result.value ≠ .error .interrupted := by
  intro status
  obtain ⟨failure, aborted, interrupts⟩ := Attempt.abort?_of_aborts aborting
  have ended : status = exitStatus (.error failure) := by
    unfold status
    rw [sequencer.run_value_aborted outer session resolved member aborting aborted]
    rfl
  by_cases interrupt : failure = .interrupted
  · refine .inl ⟨?_, interrupts.mp interrupt⟩
    rw [ended, interrupt]
    rfl
  · refine .inr ⟨?_, mt interrupts.mpr interrupt⟩
    rw [ended, exitStatus_of_ne interrupt]

theorem exitStatus_run :
    let status := exitStatus ((sequencer.run outer targets session).value.map fun _ => ())
    let attempts := sequencer.attempts outer targets session
    (status = 0 ↔ ∀ attempt ∈ attempts, attempt.aborts = false) ∧
      (status = 130 ↔
        ∃ attempt ∈ attempts, attempt.aborts = true ∧ attempt.result.value = .error .interrupted) ∧
      (status = 1 ↔
        ∃ attempt ∈ attempts, attempt.aborts = true ∧ attempt.result.value ≠ .error .interrupted) := by
  intro status attempts
  have byAttempt {attempt : Attempt σ} (member : attempt ∈ attempts)
      (aborting : attempt.aborts = true) := exitStatus_of_aborts sequencer outer session resolved member
    aborting
  by_cases passed : ∀ attempt ∈ attempts, attempt.aborts = false
  · have zero : status = 0 := exitStatus_of_passed sequencer outer session resolved passed
    refine ⟨iff_of_true zero passed, iff_of_false (by omega) ?_, iff_of_false (by omega) ?_⟩
    · rintro ⟨attempt, member, aborting, _⟩
      simp [passed attempt member] at aborting
    · rintro ⟨attempt, member, aborting, _⟩
      simp [passed attempt member] at aborting
  · obtain ⟨attempt, member, aborting⟩ : ∃ attempt ∈ attempts, attempt.aborts = true := by
      simpa using passed
    rcases byAttempt member aborting with ⟨interrupted, value⟩ | ⟨failed, value⟩
    · refine ⟨iff_of_false (by omega) passed,
        iff_of_true interrupted ⟨attempt, member, aborting, value⟩, iff_of_false (by omega) ?_⟩
      rintro ⟨other, otherMember, otherAborting, different⟩
      rcases byAttempt otherMember otherAborting with ⟨_, same⟩ | ⟨one, _⟩
      · exact different same
      · omega
    · refine ⟨iff_of_false (by omega) passed, iff_of_false (by omega) ?_,
        iff_of_true failed ⟨attempt, member, aborting, value⟩⟩
      rintro ⟨other, otherMember, otherAborting, same⟩
      rcases byAttempt otherMember otherAborting with ⟨other, _⟩ | ⟨_, different⟩
      · omega
      · exact different same

end

end Session

namespace Outcome

theorem calls_behind (notes : List Note) (outcome : Outcome) :
    Moment.calls (outcome.behind notes).moments = Moment.calls outcome.moments := by
  rw [behind, Moment.calls_append, Moment.calls_ofNotes, List.nil_append]

theorem printed_behind {notes : List Note} (silent : ∀ note ∈ notes, note.printed? = none)
    (outcome : Outcome) :
    Moment.printed (outcome.behind notes).moments = Moment.printed outcome.moments := by
  rw [behind, Moment.printed_append, Moment.printed_ofNotes none silent, ByteArray.empty_append]

/-- The command has ended before its work has begun: nothing has been called, changed or printed. -/
structure Refused (outcome : Outcome) (machine : Machine) : Prop where
  value : ∃ failure, outcome.value = .error failure ∧ failure ≠ .interrupted
  machine : outcome.machine = machine
  calls : Moment.calls outcome.moments = []
  printed : Moment.printed outcome.moments = .empty
  reported : outcome.reported = none

theorem Refused.behind {outcome : Outcome} {machine : Machine} (refused : Refused outcome machine)
    {notes : List Note} (silent : ∀ note ∈ notes, note.printed? = none) :
    Refused (outcome.behind notes) machine where
  value := refused.value
  machine := refused.machine
  calls := (calls_behind notes outcome).trans refused.calls
  printed := (printed_behind silent outcome).trans refused.printed
  reported := refused.reported

end Outcome

section

variable {α : Type} {act : Act Machine α} {next : α → Machine → Outcome} {machine : Machine}

theorem afterAct_error {failure : Failure} (value : (act machine).value = .error failure) :
    afterAct act next machine =
      ⟨.error failure, (act machine).state, Moment.ofNotes none (act machine).notes, none⟩ := by
  simp only [afterAct, value]

theorem afterAct_ok (looks : Act.Looks act) {result : α} (value : (act machine).value = .ok result) :
    afterAct act next machine = (next result machine).behind (act machine).notes := by
  simp only [afterAct, value, looks.kept machine]

/-- Where an act that looks fails, or what comes behind it is refused, nothing happens. -/
theorem refused_afterAct (looks : Act.Looks act)
    (later : ∀ value, (act machine).value = .ok value → (next value machine).Refused machine) :
    (afterAct act next machine).Refused machine := by
  cases value : (act machine).value with
  | error failure =>
      rw [afterAct_error value]
      exact
        { value := ⟨failure, rfl, fun same => looks.uninterrupted machine (same ▸ value)⟩
          machine := looks.kept machine
          calls := Moment.calls_ofNotes none _
          printed := Moment.printed_ofNotes none (looks.silent machine)
          reported := rfl }
  | ok result =>
      rw [afterAct_ok looks value]
      exact (later result value).behind (looks.silent machine)

end

variable {host : Host} {asked : Option String} {targets : List String} {options : RunOptions}
  {setting : Setting} {machine : Machine} {debug : Bool}

theorem dryRun_refused {sequencer : Sequencer DryRun.Plan} {name : String}
    (refused : sequencer.graph.resolve targets = .error (.unknownTask name)) :
    (dryRun sequencer targets machine).Refused machine := by
  simp only [dryRun, Sequencer.run_refused sequencer _ _ refused]
  exact ⟨⟨_, rfl, by simp⟩, rfl, rfl, rfl, rfl⟩

theorem liveRun_refused {sequencer : Sequencer Machine} {name : String} {json : Bool}
    (refused : sequencer.graph.resolve targets = .error (.unknownTask name)) :
    (liveRun sequencer targets json machine).Refused machine := by
  simp only [liveRun, Sequencer.run_refused sequencer _ _ refused]
  exact ⟨⟨_, rfl, by simp⟩, rfl, rfl, rfl, by simp⟩

/-- Whatever is wrong with a run, it is found before the first step. -/
theorem dispatch_refused (wrong : Rejected host asked targets machine.store ∨
      Hindered host options machine.store) :
    (dispatch host ⟨asked, debug, .run targets options⟩ machine).Refused machine := by
  refine refused_afterAct (prepare_looks host asked) fun setting prepared => ?_
  have read := prepare_ok_iff.mp prepared
  have undeclared {graph : TaskGraph} {vars : Vars} (built : setting.taskfile.graph = .ok graph)
      (final : variablesOf host setting = .ok vars) (able : ¬ Hindered host options machine.store) :
      ∃ name, graph.resolve targets = .error (.unknownTask name) := by
    have missing : ¬ ∀ target ∈ targets, target ∈ graph.tasks.map Task.name := by
      intro declared
      rw [TaskGraph.ofTasks_ok built] at declared
      exact Accepted.not_rejected ⟨read, built, final, declared⟩ (wrong.resolve_right able)
    obtain ⟨name, _, _, refused⟩ := TaskGraph.resolve_undeclared missing
    exact ⟨name, refused⟩
  change (runTasks host setting targets options machine).Refused machine
  unfold runTasks
  split
  · next dry =>
      refine refused_afterAct (sequencerOf_looks _ _ nofun) fun sequencer made => ?_
      obtain ⟨graph, vars, _, built, final, -, rfl⟩ := sequencerOf_ok_iff.mp made
      have able := read.not_hindered fun live => absurd (dry.symm.trans live) (by decide)
      obtain ⟨name, refused⟩ := undeclared built final able
      exact dryRun_refused refused
  · refine refused_afterAct (sequencerOf_looks _ _ (liveExecutor_uninterrupted host))
      fun sequencer made => ?_
    obtain ⟨graph, vars, _, built, final, ready, rfl⟩ := sequencerOf_ok_iff.mp made
    obtain ⟨started, -⟩ := liveExecutor_ok_iff.mp ready
    obtain ⟨name, refused⟩ := undeclared built final (read.not_hindered fun _ => started)
    exact liveRun_refused refused

/-- The outcome is that of a run, with its calls and its output. -/
structure Outcome.Tells {σ : Type} (ran : Sequencer.RunResult σ) (outcome : Outcome) : Prop where
  value : outcome.value = ran.value.map fun _ => ()
  calls : Moment.calls outcome.moments = Moment.calls ran.moments
  printed : Moment.printed outcome.moments = Moment.printed ran.moments

theorem Outcome.Tells.behind {σ : Type} {ran : Sequencer.RunResult σ} {outcome : Outcome}
    (tells : outcome.Tells ran) {notes : List Note} (silent : ∀ note ∈ notes, note.printed? = none) :
    (outcome.behind notes).Tells ran :=
  ⟨tells.value, (calls_behind notes outcome).trans tells.calls,
    (printed_behind silent outcome).trans tells.printed⟩

theorem dryRun_tells (sequencer : Sequencer DryRun.Plan) (targets : List String) (machine : Machine) :
    (dryRun sequencer targets machine).Tells (sequencer.run none targets ⟨[], none⟩) :=
  ⟨rfl, rfl, rfl⟩

theorem liveRun_tells (sequencer : Sequencer Machine) (targets : List String) (json : Bool)
    (machine : Machine) :
    (liveRun sequencer targets json machine).Tells (sequencer.run none targets ⟨machine, none⟩) := by
  have done (value : Except Failure Report) :
      Moment.calls (doneMoments value) = [] ∧ Moment.printed (doneMoments value) = .empty := by
    cases value <;> exact ⟨rfl, rfl⟩
  refine ⟨rfl, ?_, ?_⟩
  · rw [liveRun, Moment.calls_append, (done _).1, List.append_nil]
  · rw [liveRun, Moment.printed_append, (done _).2, ByteArray.append_empty]

theorem behind_behind (earlier later : List Note) (outcome : Outcome) :
    (outcome.behind later).behind earlier = outcome.behind (earlier ++ later) := by
  simp [Outcome.behind, Moment.ofNotes]

section

variable {graph : TaskGraph} {vars : Vars}
  (accepted : Accepted host asked targets machine.store setting graph vars)

include accepted

theorem dispatch_accepted (debug : Bool) (options : RunOptions) :
    ∃ notes, (∀ note ∈ notes, note.printed? = none) ∧
      dispatch host ⟨asked, debug, .run targets options⟩ machine =
        (runTasks host setting targets options machine).behind notes := by
  have looks := prepare_looks host asked
  exact ⟨_, looks.silent machine, afterAct_ok looks (prepare_ok_iff.mpr accepted.read)⟩

theorem afterAct_sequencerOf {σ : Type} (executor : Executor σ) (timeout : Option Duration)
    (next : Sequencer σ → Machine → Outcome) :
    ∃ notes, (∀ note ∈ notes, note.printed? = none) ∧
      afterAct (sequencerOf host setting (.ok executor) timeout) next machine =
        (next (setting.sequencer host graph vars executor timeout) machine).behind notes := by
  have looks : Act.Looks (sequencerOf host setting (.ok executor) timeout) :=
    sequencerOf_looks setting timeout nofun
  have made : (sequencerOf host setting (.ok executor) timeout machine).value =
      .ok (setting.sequencer host graph vars executor timeout) :=
    sequencerOf_ok_iff.mpr ⟨graph, vars, executor, accepted.graph, accepted.vars, rfl, rfl⟩
  exact ⟨_, looks.silent machine, afterAct_ok looks made⟩

theorem dispatch_dry (dry : options.dryRun = true) :
    ∃ notes, (∀ note ∈ notes, note.printed? = none) ∧
      dispatch host ⟨asked, debug, .run targets options⟩ machine =
        (dryRun (setting.sequencer host graph vars DryRun.executor none) targets machine).behind
          notes := by
  obtain ⟨first, firstSilent, dispatched⟩ := dispatch_accepted accepted debug options
  obtain ⟨second, secondSilent, ran⟩ := afterAct_sequencerOf accepted DryRun.executor none
    fun sequencer => dryRun sequencer targets
  refine ⟨first ++ second, List.forall_mem_append.mpr ⟨firstSilent, secondSilent⟩, ?_⟩
  rw [dispatched, runTasks, if_pos dry, ran, behind_behind]

theorem dispatch_live (live : options.dryRun = false) (started : host.runtime = .ok ()) :
    ∃ notes, (∀ note ∈ notes, note.printed? = none) ∧
      dispatch host ⟨asked, debug, .run targets options⟩ machine =
        (liveRun (setting.sequencer host graph vars (LiveRun.executor host) setting.config.stepTimeout)
          targets options.json machine).behind notes := by
  obtain ⟨first, firstSilent, dispatched⟩ := dispatch_accepted accepted debug options
  obtain ⟨second, secondSilent, ran⟩ := afterAct_sequencerOf accepted (LiveRun.executor host)
    setting.config.stepTimeout fun sequencer => liveRun sequencer targets options.json
  refine ⟨first ++ second, List.forall_mem_append.mpr ⟨firstSilent, secondSilent⟩, ?_⟩
  rw [dispatched, runTasks, if_neg (by simp [live]), liveExecutor_ok_iff.mpr ⟨started, rfl⟩, ran,
    behind_behind]

end

structure Finishes (outcome : Outcome) (finish : Finish) : Prop where
  status : finish.status = Session.exitStatus outcome.value
  machine : finish.machine = outcome.machine
  printed : finish.printed =
    Moment.printed outcome.moments ++ ((outcome.reported.map Session.reportText).getD "").toUTF8

theorem call_finishes {words : List String}
    (understood : read words = .accepted ⟨asked, debug, .run targets options⟩) :
    Finishes (dispatch host ⟨asked, debug, .run targets options⟩
      (Session.startLog host debug machine).state) (call host words machine) := by
  obtain ⟨⟨log, value⟩, silent⟩ := Session.startLog_silent host debug machine
  have ended : call host words machine = Session.finish log
      ((dispatch host ⟨asked, debug, .run targets options⟩
        (Session.startLog host debug machine).state).behind
          (Session.startLog host debug machine).notes) := by
    simp only [call, understood, Session.invoke, value]
  rw [ended]
  refine ⟨rfl, rfl, ?_⟩
  rw [Session.finish_printed, Outcome.printed_behind silent]
  rfl

structure EndsRefused (machine : Machine) (outcome : Outcome) (finish : Finish) : Prop where
  calls : Moment.calls outcome.moments = []
  machine : finish.machine = machine
  printed : finish.printed = .empty
  status : finish.status = 1

/-- A call of the program that runs targets from a state on: its status tells how the steps ended. -/
structure EndsAsRun {σ : Type} (sequencer : Sequencer σ) (targets : List String) (state : σ)
    (outcome : Outcome) (finish : Finish) : Prop where
  calls : Moment.calls outcome.moments =
    (sequencer.attempts none targets ⟨state, none⟩).map Attempt.call
  succeeded : finish.status = 0 ↔
    ∀ attempt ∈ sequencer.attempts none targets ⟨state, none⟩, attempt.aborts = false
  interrupted : finish.status = 130 ↔
    ∃ attempt ∈ sequencer.attempts none targets ⟨state, none⟩,
      attempt.aborts = true ∧ attempt.result.value = .error .interrupted
  failed : finish.status = 1 ↔
    ∃ attempt ∈ sequencer.attempts none targets ⟨state, none⟩,
      attempt.aborts = true ∧ attempt.result.value ≠ .error .interrupted

/-- The report of a run stands behind what its steps have printed. -/
def PrintsReport (ran : Sequencer.RunResult Machine) (finish : Finish) : Prop :=
  ∃ report, ran.session.report = some report ∧
    finish.printed = Moment.printed ran.moments ++ (Session.reportText report).toUTF8

theorem endsRefused {outcome : Outcome} {finish : Finish} (refused : outcome.Refused machine)
    (finishes : Finishes outcome finish) : EndsRefused machine outcome finish := by
  obtain ⟨failure, value, uninterrupted⟩ := refused.value
  refine ⟨refused.calls, finishes.machine.trans refused.machine, ?_, ?_⟩
  · rw [finishes.printed, refused.printed, refused.reported]
    rfl
  · rw [finishes.status, value, Session.exitStatus_of_ne uninterrupted]

theorem endsAsRun {σ : Type} {sequencer : Sequencer σ} {state : σ} {outcome : Outcome}
    {finish : Finish} (declared : ∀ target ∈ targets, target ∈ sequencer.graph.tasks.map Task.name)
    (tells : outcome.Tells (sequencer.run none targets ⟨state, none⟩))
    (finishes : Finishes outcome finish) : EndsAsRun sequencer targets state outcome finish := by
  obtain ⟨resolved, _⟩ := TaskGraph.resolve_declared declared
  obtain ⟨succeeded, interrupted, failed⟩ := Session.exitStatus_run sequencer none ⟨state, none⟩ resolved
  rw [← tells.value, ← finishes.status] at succeeded interrupted failed
  refine ⟨?_, succeeded, interrupted, failed⟩
  rw [tells.calls, Sequencer.attempts_run sequencer none _ resolved]
  exact Sequencer.calls_run sequencer none _ resolved

theorem printsReport {sequencer : Sequencer Machine} {outcome : Outcome} {finish : Finish}
    (declared : ∀ target ∈ targets, target ∈ sequencer.graph.tasks.map Task.name)
    (tells : outcome.Tells (sequencer.run none targets ⟨machine, none⟩))
    (reported : outcome.reported = (sequencer.run none targets ⟨machine, none⟩).session.report)
    (finishes : Finishes outcome finish) :
    PrintsReport (sequencer.run none targets ⟨machine, none⟩) finish := by
  obtain ⟨resolved, _⟩ := TaskGraph.resolve_declared declared
  have stored := Sequencer.run_report sequencer none ⟨machine, none⟩ resolved
  refine ⟨_, stored, ?_⟩
  rw [finishes.printed, tells.printed, reported, stored]
  rfl

/-- A run of which anything is wrong (its configuration, its taskfile, its graph, its variables or one
of its targets) calls for no step, changes nothing behind the start of the log, prints nothing and ends
with status 1; so does one that the system hinders.  Any other ends with the status of its steps, and
prints its report where it was asked to. -/
theorem call_run_status (host : Host) (words : List String) (machine : Machine)
    (asked : Option String) (debug : Bool) (targets : List String) (options : RunOptions)
    (understood : read words = .accepted ⟨asked, debug, .run targets options⟩) :
    let start := (Session.startLog host debug machine).state
    let outcome := dispatch host ⟨asked, debug, .run targets options⟩ start
    let finish := call host words machine
    (Rejected host asked targets start.store → EndsRefused start outcome finish) ∧
    (Hindered host options start.store → EndsRefused start outcome finish) ∧
    (¬ Rejected host asked targets start.store → ¬ Hindered host options start.store →
      ∃ setting graph vars, Accepted host asked targets start.store setting graph vars ∧
        (options.dryRun = true →
          EndsAsRun (setting.sequencer host graph vars DryRun.executor none) targets [] outcome
            finish) ∧
        (options.dryRun = false →
          let sequencer := setting.sequencer host graph vars (LiveRun.executor host)
            setting.config.stepTimeout
          EndsAsRun sequencer targets start outcome finish ∧
            (options.json = true →
              PrintsReport (sequencer.run none targets ⟨start, none⟩) finish))) := by
  intro start outcome finish
  have finishes : Finishes outcome finish := call_finishes understood
  refine ⟨fun rejected => endsRefused (dispatch_refused (.inl rejected)) finishes,
    fun hindered => endsRefused (dispatch_refused (.inr hindered)) finishes, fun sound able => ?_⟩
  obtain ⟨directory, working⟩ : ∃ directory, start.store.workDirectory = .ok directory := by
    cases working : start.store.workDirectory with
    | ok directory => exact ⟨directory, rfl⟩
    | error cause => exact absurd (.directory working) able
  obtain ⟨setting, graph, vars, accepted⟩ := accepted_exists working sound
  have declared : ∀ target ∈ targets, target ∈ graph.tasks.map Task.name := by
    rw [TaskGraph.ofTasks_ok accepted.graph]
    exact accepted.declared
  refine ⟨setting, graph, vars, accepted, fun dry => ?_, fun live => ?_⟩
  · obtain ⟨notes, silent, same⟩ : ∃ notes, (∀ note ∈ notes, note.printed? = none) ∧ outcome =
      (dryRun (setting.sequencer host graph vars DryRun.executor none) targets start).behind notes :=
      dispatch_dry accepted dry
    rw [same] at finishes ⊢
    exact endsAsRun declared ((dryRun_tells _ targets start).behind silent) finishes
  · intro sequencer
    have started : host.runtime = .ok () := by
      cases started : host.runtime with
      | ok => rfl
      | error cause => exact absurd (.runtime live started) able
    obtain ⟨notes, silent, same⟩ : ∃ notes, (∀ note ∈ notes, note.printed? = none) ∧
      outcome = (liveRun sequencer targets options.json start).behind notes :=
      dispatch_live accepted live started
    have tells := (liveRun_tells sequencer targets options.json start).behind silent
    rw [← same] at tells
    refine ⟨endsAsRun declared tells finishes, fun json => printsReport declared tells ?_ finishes⟩
    rw [same]
    simp [Outcome.behind, liveRun, json]

/-- A host on which children cannot be waited for: there are too many open files. -/
def crowdedHost : Host :=
  { branchHost with runtime := .error (.system 24) }

/-- A configuration file that is no document stops a run, and so does a crowded host; with an empty file
the run prints its report. -/
theorem call_clean_status :
    let words := ["run", "clean", "--json"]
    let broken : Machine := ⟨configured "branch", []⟩
    let sound : Machine := ⟨configured "", []⟩
    read words = .accepted ⟨none, false, .run ["clean"] ⟨false, true⟩⟩ ∧
      (call branchHost words broken).printed = .empty ∧ (call branchHost words broken).status = 1 ∧
      (call crowdedHost words sound).printed = .empty ∧ (call crowdedHost words sound).status = 1 ∧
      (call branchHost words sound).status = 0 ∧
      ∃ ran, PrintsReport ran (call branchHost words sound) := by
  intro words broken sound
  have understood : read words = .accepted ⟨none, false, .run ["clean"] ⟨false, true⟩⟩ := by
    decide +kernel
  have rejected : Rejected branchHost none ["clean"]
      (Session.startLog branchHost false broken).state.store := by
    have malformed : (Config.loadEffective branchHost.home (environmentOf branchHost)
        (Session.startLog branchHost false broken).state.store).value.toOption = none := by
      decide +kernel
    cases loaded : (Config.loadEffective branchHost.home (environmentOf branchHost)
        (Session.startLog branchHost false broken).state.store).value with
    | error failure => exact .config loaded
    | ok config => simp [loaded, Except.toOption] at malformed
  have accepted : ¬ Rejected branchHost none ["clean"]
      (Session.startLog branchHost false sound).state.store := by
    have checked : ((prepare branchHost none
        (Session.startLog branchHost false sound).state).value.toOption.bind fun setting =>
          setting.taskfile.graph.toOption.bind fun _ =>
            (variablesOf branchHost setting).toOption.map fun _ =>
              setting.taskfile.tasks.map Task.name |>.contains "clean") = some true := by
      decide +kernel
    obtain ⟨setting, prepared, checked⟩ := Option.bind_eq_some_iff.mp checked
    obtain ⟨graph, built, checked⟩ := Option.bind_eq_some_iff.mp checked
    obtain ⟨vars, final, declared⟩ := Option.map_eq_some_iff.mp checked
    exact Accepted.not_rejected ⟨prepare_ok_iff.mp (ok_of_toOption prepared), ok_of_toOption built,
      ok_of_toOption final, by simpa using declared⟩
  have able : ¬ Hindered branchHost ⟨false, true⟩ (Session.startLog branchHost false sound).state.store := by
    have working : (Session.startLog branchHost false sound).state.store.workDirectory.toOption =
        some "/" := by
      decide +kernel
    intro hindered
    cases hindered with
    | directory lost => simp [lost, Except.toOption] at working
    | runtime live denied => contradiction
  obtain ⟨rejects, _⟩ := call_run_status branchHost words broken none false ["clean"] ⟨false, true⟩
    understood
  obtain ⟨_, hinders, _⟩ := call_run_status crowdedHost words sound none false ["clean"] ⟨false, true⟩
    understood
  have stopped := hinders (.runtime rfl rfl)
  obtain ⟨_, _, accepts⟩ := call_run_status branchHost words sound none false ["clean"] ⟨false, true⟩
    understood
  obtain ⟨_, _, _, _, _, live⟩ := accepts accepted able
  exact ⟨understood, (rejects rejected).printed, (rejects rejected).status, stopped.printed,
    stopped.status, by decide +kernel, _, (live rfl).2 rfl⟩

end CommandLine

end Groundwork
