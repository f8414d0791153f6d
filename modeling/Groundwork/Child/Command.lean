import Groundwork.Duration
import Groundwork.Store.Files
import Groundwork.Task.Basic
import Groundwork.Vars

namespace Groundwork

/-! Commands, and what becomes of the child processes that carry them out. -/

structure Command where
  program : String
  arguments : List String
  /-- The working directory; without one the child stays where its parent is. -/
  directory : Option String
  /-- Variables over those of the process environment. -/
  vars : Table String

namespace Command

/-- A script, run by the shell. -/
def shell (script : String) (directory : Option String) (vars : Table String) : Command :=
  ⟨Action.shellProgram, ["-c", script], directory, vars⟩

/-- The first word is the program. -/
def ofWords (words : List String) (directory : Option String) (vars : Table String) :
    Except Failure Command :=
  match words with
  | [] => .error (.validation "Command cannot be empty")
  | program :: arguments => .ok ⟨program, arguments, directory, vars⟩

def shown (command : Command) : String :=
  Action.commandLine command.program command.arguments

end Command

inductive Ending where
  | exited (status : Nat)
  | signalled
  deriving DecidableEq, Repr

namespace Ending

def isSuccess : Ending → Bool
  | .exited status => status = 0
  | .signalled => false

def shown : Ending → String
  | .exited status => "exit status " ++ toString status
  | .signalled => "terminated by signal"

end Ending

structure Patience where
  limit : Option Duration
  /-- Whether an interrupt ends the wait. -/
  interruptible : Bool

inductive Wait where
  | ended (ending : Ending)
  | timedOut
  | interrupted
  deriving DecidableEq, Repr

/-- What a child has left when its parent stops waiting for it. -/
structure Finished where
  wait : Wait
  store : Store
  printed : ByteArray
  complained : ByteArray

structure Launch where
  program : String
  arguments : List String
  directory : Option String
  environment : Table String

/-- The programs of a system: what comes of starting one, or why it cannot be started. -/
abbrev Programs := Launch → Patience → Store → Except IoCause Finished

/-- Where a program of a system is found, if it is installed. -/
abbrev Finder := String → Store → Option String

end Groundwork
