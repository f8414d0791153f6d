import Groundwork.Child.Command
import Groundwork.Git.Clone
import Groundwork.Text.Quoted

namespace Groundwork

/-! The machine that steps are carried out on: its files, and the children started so far. -/

/-- What the program gets from outside, and what does not change while it works. -/
structure Host where
  /-- The process environment, which children inherit. -/
  environment : Table String
  /-- The home directory of the user, if it is known. -/
  home : Option String
  programs : Programs
  finder : Finder
  cloner : Git.Cloner
  /-- Whether the means to wait for children can be had, or why not. -/
  runtime : Except IoCause Unit

structure Machine where
  store : Store
  /-- The commands that a child was started for, in order. -/
  started : List Command

namespace Act

def onStore (act : Act Store α) : Act Machine α :=
  fun machine =>
    let result := act machine.store
    ⟨result.value, { machine with store := result.state }, result.notes⟩

end Act

namespace Command

def launch (host : Host) (command : Command) : Launch :=
  ⟨command.program, command.arguments, command.directory,
    Table.merge host.environment command.vars⟩

/-- Starts a child and waits for it.  A child that cannot be started leaves no trace. -/
def start (host : Host) (patience : Patience) (command : Command) : Act Machine Finished :=
  fun machine =>
    match host.programs (command.launch host) patience machine.store with
    | .error cause => ⟨.error (.io cause), machine, []⟩
    | .ok finished => ⟨.ok finished, ⟨finished.store, machine.started ++ [command]⟩, []⟩

def runNote (limit : Option Duration) (command : Command) : Note :=
  .logged .debug ("process::run " ++ command.shown ++ " cwd=" ++
    Text.shownOption (command.directory.map Text.quotedPath) ++ " timeout=" ++
    Text.shownOption (limit.map Duration.shown))

/-- Runs a command to its end; what the child writes goes where the parent writes. -/
def run (host : Host) (limit : Option Duration) (command : Command) : Act Machine Unit := do
  Act.note (command.runNote limit)
  let finished ← command.start host ⟨limit, true⟩
  Act.note (.printed finished.printed)
  Act.note (.complained finished.complained)
  match finished.wait with
  | .interrupted => throw .interrupted
  | .timedOut => throw (.timeout (limit.getD (.ofSeconds 0)))
  | .ended ending =>
      if ending.isSuccess then return
      else throw (.commandFailed command.shown ending.shown)

/-- What a child ended as; one that was not waited for to its end counts as ended by a signal. -/
def endingOf (finished : Finished) : Ending :=
  match finished.wait with
  | .ended ending => ending
  | .timedOut | .interrupted => .signalled

/-- Runs a command and gives back what it prints, which must be text. -/
def capture (host : Host) (command : Command) : Act Machine String := do
  Act.log .debug ("process::capture " ++ command.shown)
  let finished ← command.start host ⟨none, false⟩
  let ending := endingOf finished
  if !ending.isSuccess then
    let complaint := Text.trim (Text.Utf8.readReplacing finished.complained)
    throw (.commandFailed command.shown (ending.shown ++ ": " ++ complaint))
  match Text.Utf8.faultMessage finished.printed, Text.Utf8.read? finished.printed with
  | none, some text => do
      Act.log .trace ("capture: " ++ toString finished.printed.size ++ " bytes")
      return text
  | fault, _ =>
      throw (.validation ("`" ++ command.shown ++ "` printed non-UTF-8 output: " ++ fault.getD ""))

end Command

end Groundwork
