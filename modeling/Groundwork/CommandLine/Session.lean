import Groundwork.CommandLine.Dispatch
import Groundwork.Json.Printer

namespace Groundwork.CommandLine

/-! A session: one call of the program from its words to its exit status. -/

structure Finish where
  status : Nat
  printed : ByteArray
  complained : ByteArray
  /-- The lines of the log, without their time stamps. -/
  logged : List String
  machine : Machine

namespace Session

/-- The log of a session: the file that it goes to, if there is one, and its level. -/
structure Log where
  path : Option String
  level : Groundwork.Log.Level

def openLog (directory : String) : Act Machine String :=
  Act.onStore do
    Store.makeDirectories directory
    let path := Path.join directory Groundwork.Log.fileName
    Act.change (Store.writeText "" path)
    return path

/-- Why there is no log; a cause is given without its kind. -/
def disabledText (failure : Failure) : String :=
  let reason := match failure with
    | .io cause => cause.message
    | failure => failure.message
  Display.complaint ("logging disabled: " ++ reason)

/-- Starts the log below the home directory.  Without it the session goes on. -/
def startLog (host : Host) (debug : Bool) : Act Machine Log := do
  let level := Groundwork.Log.Level.ofSettings debug ((environmentOf host "BMINFRA_DEBUG").getD "")
  match Config.directory? host.home with
  | .error _ => return ⟨none, level⟩
  | .ok directory =>
      match ← Act.attempt (openLog directory) with
      | .ok path => return ⟨some path, level⟩
      | .error failure => do
          Act.note (complainNote [disabledText failure])
          return ⟨none, level⟩

/-- What goes to the terminal, as output and as complaints; `steps` is the size of the running task. -/
def terminal : Nat → List Moment → ByteArray × ByteArray
  | _, [] => (.empty, .empty)
  | steps, moment :: rest =>
      match moment.occurrence with
      | .event event =>
          let (printed, complained) := terminal (Display.stepsAfter steps event) rest
          (printed, (linesText (Display.eventLine? steps event).toList).toUTF8 ++ complained)
      | .noted (.printed bytes) =>
          let (printed, complained) := terminal steps rest
          (bytes ++ printed, complained)
      | .noted (.complained bytes) =>
          let (printed, complained) := terminal steps rest
          (printed, bytes ++ complained)
      | _ => terminal steps rest

def reportText (report : Report) : String :=
  (Display.reportValue report).pretty ++ "\n"

/-- An interrupt has a status of its own, and every other failure has the same. -/
def exitStatus : Except Failure Unit → Nat
  | .ok _ => 0
  | .error .interrupted => 130
  | .error _ => 1

def failureMoments (log : Log) (failure : Failure) : List Moment :=
  let hint := match log.path with
    | some path => if log.level.isDebug then [Display.complaint ("see " ++ path)] else []
    | none => []
  [.logged none .error failure.message] ++
    Moment.ofNotes none [complainNote (Display.complaint failure.message :: hint)]

def endMoments (log : Log) : Except Failure Unit → List Moment
  | .ok _ => []
  | .error failure => failureMoments log failure

def finish (log : Log) (outcome : Outcome) : Finish :=
  let moments := outcome.moments ++ endMoments log outcome.value
  let (printed, complained) := terminal 0 moments
  let report := (outcome.reported.map reportText).getD ""
  { status := exitStatus outcome.value
    printed := printed ++ report.toUTF8
    complained := complained
    logged := if log.path.isSome then Moment.logLines log.level moments else []
    machine := outcome.machine }

/-- Carries out an invocation under its own log. -/
def invoke (host : Host) (invocation : Invocation) (machine : Machine) : Finish :=
  let started := startLog host invocation.debug machine
  match started.value with
  | .error failure => finish ⟨none, .info⟩ ⟨.error failure, started.state, [], none⟩
  | .ok log => finish log ((dispatch host invocation started.state).behind started.notes)

def showing (status : Nat) (printed complained : List String) (machine : Machine) : Finish :=
  ⟨status, (linesText printed).toUTF8, (linesText complained).toUTF8, [], machine⟩

end Session

def call (host : Host) (words : List String) (machine : Machine) : Finish :=
  match read words with
  | .accepted invocation => Session.invoke host invocation machine
  | .version => Session.showing 0 [Display.versionText] [] machine
  | .help => Session.showing 0 Display.usageLines [] machine
  | .refused => Session.showing 2 [] Display.usageLines machine

end Groundwork.CommandLine
