import Groundwork.Duration
import Groundwork.IoCause

namespace Groundwork

/-! Why an operation failed, and what the operator is told. -/

inductive Failure where
  | io (cause : IoCause)
  | git (detail : String)
  | json (detail : String)
  | toml (detail : String)
  | regex (detail : String)
  | walk (detail : String)
  | noHome
  | config (detail : String)
  | validation (detail : String)
  | unknownTask (name : String)
  | unknownPrerequisite (task : String) (need : String)
  | duplicateTask (name : String)
  | cycle (path : List String)
  | undefinedVariable (name : String)
  | commandFailed (command : String) (status : String)
  | stepFailed (task : String) (index : Nat) (reason : String)
  | timeout (limit : Duration)
  | interrupted
  | missingTools (programs : List String)
  deriving DecidableEq, Repr

namespace Failure

def message : Failure → String
  | .io cause => "IO error: " ++ cause.message
  | .git detail => "Git error: " ++ detail
  | .json detail => "JSON error: " ++ detail
  | .toml detail => "TOML parse error: " ++ detail
  | .regex detail => "Regex error: " ++ detail
  | .walk detail => "Walk error: " ++ detail
  | .noHome => "No home directory"
  | .config detail => "Config error: " ++ detail
  | .validation detail => "Validation error: " ++ detail
  | .unknownTask name => "Unknown task: " ++ name
  | .unknownPrerequisite task need => "Task '" ++ task ++ "' needs undeclared task '" ++ need ++ "'"
  | .duplicateTask name => "Task declared twice: " ++ name
  | .cycle path => "Dependency cycle: " ++ " -> ".intercalate path
  | .undefinedVariable name => "Undefined variable: $\x7b" ++ name ++ "\x7d"
  | .commandFailed command status => "`" ++ command ++ "` failed: " ++ status
  | .stepFailed task index reason => "Task '" ++ task ++ "' step " ++ toString index ++ " failed: " ++ reason
  | .timeout limit => "Operation timed out after " ++ limit.shown
  | .interrupted => "Interrupted"
  | .missingTools programs => "Missing tools: " ++ ", ".intercalate programs

/-- A fatal failure ends the run even in a best-effort step. -/
def isFatal : Failure → Bool
  | .interrupted => true
  | _ => false

end Failure

end Groundwork
