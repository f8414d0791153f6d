import Groundwork.Run.Executor

namespace Groundwork

/-! Calls of an executor, and what they bring.

Calls that are made one after another pass the state on.  `replay` makes all of them; `follow` stops
behind the first that aborts, as a run does.  Replaying the calls that were followed brings the same
again, so that the calls of a run determine what it met.
-/

universe u

variable {σ : Type u}

/-- A step and what the executor is told about it. -/
abbrev Call := Step × StepContext

/-- A call with what it brought. -/
structure Attempt (σ : Type u) where
  step : Step
  context : StepContext
  result : Act.Result σ StepOutcome

namespace Attempt

def call (attempt : Attempt σ) : Call := (attempt.step, attempt.context)

def failed (attempt : Attempt σ) : Bool :=
  match attempt.result.value with
  | .ok _ => false
  | .error _ => true

/-- Whether a best-effort step failed. -/
def effortFailed (attempt : Attempt σ) : Bool := attempt.step.bestEffort && attempt.failed

/-- A failure aborts when it is an interrupt, or when the step is not a best-effort one. -/
def aborts (attempt : Attempt σ) : Bool :=
  match attempt.result.value with
  | .ok _ => false
  | .error failure => failure = .interrupted || !attempt.step.bestEffort

/-- An interrupt is reported as it is, any other failure that aborts as that of its step. -/
def abort? (attempt : Attempt σ) : Option Failure :=
  match attempt.result.value with
  | .ok _ => none
  | .error failure =>
      if attempt.aborts then
        some (if failure = .interrupted then .interrupted
          else .stepFailed attempt.context.task attempt.context.index failure.message)
      else none

/-- The text of a failure that the run goes on after. -/
def warning? (attempt : Attempt σ) : Option String :=
  match attempt.result.value with
  | .ok _ => none
  | .error failure =>
      if attempt.aborts then none
      else some (attempt.context.task ++ " step " ++ toString attempt.context.index ++ ": " ++
        failure.message)

theorem abort?_isSome (attempt : Attempt σ) : attempt.abort?.isSome = attempt.aborts := by
  unfold abort?
  cases value : attempt.result.value with
  | ok outcome => simp [aborts, value]
  | error failure => cases aborting : attempt.aborts <;> rfl

theorem abort?_eq_none {attempt : Attempt σ} : attempt.abort? = none ↔ attempt.aborts = false := by
  rw [← abort?_isSome, Option.isSome_eq_false_iff, Option.isNone_iff_eq_none]

theorem warning?_isSome {attempt : Attempt σ} (passed : attempt.aborts = false) :
    attempt.warning?.isSome = attempt.effortFailed := by
  unfold warning? effortFailed failed
  cases value : attempt.result.value with
  | ok outcome => simp
  | error failure =>
      have effort : attempt.step.bestEffort = true := by
        simp only [aborts, value, Bool.or_eq_false_iff, Bool.not_eq_false'] at passed
        exact passed.2
      simp [passed, effort]

theorem warning?_of_aborts {attempt : Attempt σ} (aborting : attempt.aborts = true) :
    attempt.warning? = none := by
  unfold warning?
  cases value : attempt.result.value with
  | ok outcome => rfl
  | error failure => simp [aborting]

/-- The state that the last of some attempts left. -/
def stateAfter (state : σ) (attempts : List (Attempt σ)) : σ :=
  attempts.foldl (fun _ attempt => attempt.result.state) state

end Attempt

namespace Executor

variable (executor : Executor σ)

def attempt (state : σ) (call : Call) : Attempt σ :=
  ⟨call.1, call.2, executor.execute call.1 call.2 state⟩

/-- What the calls bring when all are made. -/
def replay : List Call → σ → List (Attempt σ)
  | [], _ => []
  | call :: rest, state =>
      let attempt := executor.attempt state call
      attempt :: replay rest attempt.result.state

/-- What the calls bring, up to the first that aborts. -/
def follow : List Call → σ → List (Attempt σ)
  | [], _ => []
  | call :: rest, state =>
      let attempt := executor.attempt state call
      if attempt.aborts then [attempt] else attempt :: follow rest attempt.result.state

theorem follow_append (calls later : List Call) (state : σ) :
    executor.follow (calls ++ later) state =
      let attempts := executor.follow calls state
      if attempts.any Attempt.aborts then attempts
      else attempts ++ executor.follow later (Attempt.stateAfter state attempts) := by
  induction calls generalizing state with
  | nil => rfl
  | cons call rest ih =>
      simp only [List.cons_append, follow]
      split
      · next aborting => simp [aborting]
      · next passed =>
          rw [ih]
          simp only [List.any_cons, passed, Bool.false_or]
          split
          · rfl
          · rfl

theorem replay_follow (calls : List Call) (state : σ) :
    executor.replay ((executor.follow calls state).map Attempt.call) state =
      executor.follow calls state := by
  induction calls generalizing state with
  | nil => rfl
  | cons call rest ih =>
      rw [follow]
      split
      · rfl
      · exact congrArg (executor.attempt state call :: ·) (ih _)

theorem follow_prefix (calls : List Call) (state : σ) :
    (executor.follow calls state).map Attempt.call <+: calls := by
  induction calls generalizing state with
  | nil => exact List.prefix_rfl
  | cons call rest ih =>
      rw [follow]
      split
      · exact List.cons_prefix_cons.mpr ⟨rfl, List.nil_prefix⟩
      · exact List.cons_prefix_cons.mpr ⟨rfl, ih _⟩

theorem follow_complete {calls : List Call} {state : σ}
    (passed : ∀ attempt ∈ executor.follow calls state, attempt.aborts = false) :
    (executor.follow calls state).map Attempt.call = calls := by
  induction calls generalizing state with
  | nil => rfl
  | cons call rest ih =>
      rw [follow] at passed ⊢
      split at passed
      · next aborting =>
          have contrary := passed _ List.mem_cons_self
          rw [aborting] at contrary
          contradiction
      · next going =>
          rw [if_neg going]
          exact congrArg (call :: ·)
            (ih fun attempt member => passed attempt (List.mem_cons_of_mem _ member))

theorem follow_aborts_last {calls : List Call} {state : σ} {earlier later : List (Attempt σ)}
    {attempt : Attempt σ} (split : executor.follow calls state = earlier ++ attempt :: later)
    (aborting : attempt.aborts = true) : later = [] := by
  induction calls generalizing state earlier with
  | nil => simp [follow] at split
  | cons call rest ih =>
      rw [follow] at split
      split at split
      · cases earlier with
        | nil => exact (List.cons.inj split).2.symm
        | cons head tail => simp at split
      · next passed =>
          cases earlier with
          | nil =>
              rw [(List.cons.inj split).1] at passed
              exact absurd aborting passed
          | cons head tail => exact ih (List.cons.inj split).2

theorem follow_eq_concat {calls : List Call} {state : σ} {attempt : Attempt σ}
    (member : attempt ∈ executor.follow calls state) (aborting : attempt.aborts = true) :
    ∃ earlier, executor.follow calls state = earlier ++ [attempt] ∧
      ∀ other ∈ earlier, other.aborts = false := by
  obtain ⟨earlier, later, split⟩ := List.append_of_mem member
  obtain rfl := executor.follow_aborts_last split aborting
  refine ⟨earlier, split, fun other inEarlier => ?_⟩
  obtain ⟨before, after, rfl⟩ := List.append_of_mem inEarlier
  rw [List.append_assoc, List.cons_append] at split
  cases going : other.aborts with
  | false => rfl
  | true =>
      have nothing := executor.follow_aborts_last split going
      simp at nothing

theorem findSome?_follow {calls : List Call} {state : σ} {attempt : Attempt σ}
    (member : attempt ∈ executor.follow calls state) (aborting : attempt.aborts = true) :
    (executor.follow calls state).findSome? Attempt.abort? = attempt.abort? := by
  induction calls generalizing state with
  | nil => simp [follow] at member
  | cons call rest ih =>
      rw [follow] at member ⊢
      split at member
      · next first =>
          rw [if_pos first, List.mem_singleton.mp member, List.findSome?_cons]
          cases (executor.attempt state call).abort? <;> rfl
      · next going =>
          rw [if_neg going, List.findSome?_cons,
            Attempt.abort?_eq_none.mpr (Bool.not_eq_true _ ▸ going)]
          rcases List.mem_cons.mp member with rfl | later
          · exact absurd aborting going
          · exact ih later

end Executor

end Groundwork
