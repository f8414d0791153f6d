import Groundwork.Json.Value

namespace Groundwork

/-! How a task ended within a run. -/

inductive Status where
  | completed
  | completedWithWarnings (warnings : Nat)
  | failed (error : String)
  deriving DecidableEq, Repr

namespace Status

def isFailed : Status → Bool
  | .failed _ => true
  | _ => false

def shown : Status → String
  | .completed => "completed"
  | .completedWithWarnings warnings => s!"completed with {warnings} warning(s)"
  | .failed error => "failed: " ++ error

def encode : Status → Json.Value
  | .completed => .ofMembers [("state", .string "completed")]
  | .completedWithWarnings warnings =>
      .ofMembers [("state", .string "completed_with_warnings"), ("warnings", .ofNat warnings)]
  | .failed error => .ofMembers [("state", .string "failed"), ("error", .string error)]

/-- Counts have 64 bits. -/
def count? : Json.Value → Option Nat
  | .integer (.ofNat count) => if count < Nat.pow 2 64 then some count else none
  | _ => none

/-- A status is an object, or a list of the state and what belongs to it. -/
def decode? : Json.Value → Option Status
  | .object members =>
      match Table.get? "state" members with
      | some (.string "completed") => some .completed
      | some (.string "completed_with_warnings") =>
          (Table.get? "warnings" members).bind fun value => (count? value).map .completedWithWarnings
      | some (.string "failed") =>
          (Table.get? "error" members).bind fun value => value.string?.map .failed
      | _ => none
  | .array [.string "completed"] => some .completed
  | .array [.string "completed_with_warnings", warnings] => (count? warnings).map .completedWithWarnings
  | .array [.string "failed", .string error] => some (.failed error)
  | _ => none

end Status

end Groundwork
