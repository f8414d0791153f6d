import Groundwork.Act
import Groundwork.Run.Resolution

namespace Groundwork

/-! What carries out single steps. -/

inductive StepOutcome where
  | ran
  | skipped (reason : String)
  deriving DecidableEq, Repr

/-- Carries out steps on a state of its own. -/
structure Executor (σ : Type u) where
  execute : Step → StepContext → Act σ StepOutcome

namespace DryRun

structure Planned where
  task : String
  step : String
  deriving DecidableEq, Repr

/-- The resolved steps, in the order in which they would run. -/
abbrev Plan := List Planned

/-- Every step is resolved, and nothing more is done. -/
def execute (step : Step) (context : StepContext) : Act Plan StepOutcome :=
  fun planned =>
    match step.action.resolve context with
    | .error failure => ⟨.error failure, planned, []⟩
    | .ok resolved =>
        ⟨.ok (.skipped ("dry run: " ++ resolved.shown)), planned ++ [⟨context.task, resolved.shown⟩], []⟩

def executor : Executor Plan := ⟨execute⟩

end DryRun

end Groundwork
