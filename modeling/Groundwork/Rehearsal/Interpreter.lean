import Groundwork.Rehearsal.Builtin
import Groundwork.Rehearsal.Redirected

namespace Groundwork.Rehearsal.Interpreter

/-! How a shell carries out commands. -/

/-- Ends the script when a command has failed, if failing is meant to end it. -/
def checked (process : Process) : Process :=
  if process.strict && !process.tested && process.isOnward && process.status ≠ 0 then
    process.leave process.status
  else process

def runTested (next : Level) (commands : List Command) (process : Process) : Process :=
  { next.commands commands { process with tested := true } with tested := process.tested }

def assignAll (next : Level) (exported : Bool) : List (String × Word) → Process → Process
  | [], process => process
  | (name, word) :: rest, process =>
      let (text, process) := Expansion.expandText next word process
      let assigned := process.setVariable name text
      let assigned := if exported then assigned.exportVariable name else assigned
      if process.isOnward then assignAll next exported rest assigned else process

def restoreVariable (name : String) (before : Option Variable) (process : Process) : Process :=
  match before with
  | some stored => { process with vars := Table.insert name stored process.vars }
  | none => process.unsetVariable name

/-- Takes back assignments that were made for one command. -/
def restoreVariables (names : List String) (before process : Process) : Process :=
  names.foldl (fun process name => restoreVariable name (Table.get? name before.vars) process) process

def callFunction (next : Level) (body : Command) (arguments : List String) (process : Process) : Process :=
  let ran := next.commands [body] { process with arguments := arguments, hidden := [], loops := 0 }
  let shown := ran.hidden.foldl (fun process (name, before) => restoreVariable name before process) ran
  { shown with
    arguments := process.arguments
    hidden := process.hidden
    loops := process.loops
    flow := if ran.flow = .returning then .onward else ran.flow }

/-- What cannot be started is complained about by name. -/
def refuseProgram (line : Nat) (shown : String) (cause : IoCause) (process : Process) : Process :=
  let isMissing : Bool := cause = .notFound ∨ cause = .notDirectory
  let text := Redirected.reason "not found" cause
  (process.complainAt line (shown ++ ": " ++ text)).withStatus (if isMissing then 127 else 126)

/-- A program for the shell: text that says no program of its own is a script. -/
def programFor (process : Process) (name : String) (arguments : List String) :
    Except IoCause Executable :=
  match Executable.find process.store process.environment name arguments with
  | .error cause => .error cause
  | .ok executable =>
      match executable.image with
      | .text => .ok ⟨.shell, executable.path, executable.path, executable.path :: executable.arguments⟩
      | _ => .ok executable

/-- Signals whose name the shell prints when a program has ended of them. -/
def signalTexts : List (Nat × String) :=
  [(1, "Hangup"), (9, "Killed"), (10, "User defined signal 1"), (12, "User defined signal 2"),
    (14, "Alarm clock"), (15, "Terminated")]

def reportSignal (report : Channel) (exit : Exit) (process : Process) : Process :=
  match exit with
  | .signal number =>
      match signalTexts.lookup number with
      | some text => if process.isOnward then process.write report (text ++ "\n").toUTF8 else process
      | none => process
  | .status _ => process

/-- Signals are reported where complaints of the shell go, whatever the redirections of the command. -/
def runProgram (next : Level) (line : Nat) (report : Channel) (name : String) (arguments : List String)
    (process : Process) : Process :=
  match programFor process name arguments with
  | .error cause => refuseProgram line name cause process
  | .ok executable =>
      let child := next.run executable process.environment process
      reportSignal report child.exit (process.resume child)

def become (next : Level) (line : Nat) (words : List String) (process : Process) : Process :=
  match words with
  | [] => process.withStatus 0
  | name :: arguments =>
      match programFor process name arguments with
      | .error cause =>
          let refused := refuseProgram line ("exec: " ++ name) cause process
          refused.leave refused.status
      | .ok executable =>
          let child := next.run executable process.environment process
          let after := process.resume child
          if after.isOnward then { after with flow := .leaving child.exit, finalScript := "" } else after

def describe (surroundings : Surroundings) (process : Process) (name : String) : Option (String × String) :=
  if Reader.keywords.contains name then some (name, name ++ " is a shell keyword")
  else if Table.contains name process.functions then some (name, name ++ " is a shell function")
  else if (Builtin.special? name).isSome then some (name, name ++ " is a special shell builtin")
  else if (Builtin.plain? surroundings name).isSome || Builtin.deeper.contains name then
    some (name, name ++ " is a shell builtin")
  else
    match Executable.find process.store process.environment name [] with
    | .ok executable => some (executable.path, name ++ " is " ++ executable.path)
    | .error _ => none

def describeAll (surroundings : Surroundings) (briefly : Bool) (names : List String) (process : Process) :
    Process :=
  names.foldl (fun process name =>
    match describe surroundings process name with
    | some (brief, long) => process.printText ((if briefly then brief else long) ++ "\n")
    | none =>
        if briefly then process.withStatus 127
        else (process.printText (name ++ ": not found\n")).withStatus 127)
    (process.withStatus 0)

def runFile (next : Level) (line : Nat) (path : String) (process : Process) : Process :=
  match process.store.readBytes path with
  | .ok bytes =>
      let ran := next.runScript (Script.read (Text.Utf8.readReplacing bytes)) process
      if ran.flow = .returning then { ran with flow := .onward } else ran
  | .error cause =>
      let text := ".: cannot open " ++ path ++ ": " ++ Redirected.reason "No such file" cause
      (process.complainAt line text).leave 2

/-- Whether failing assignments and redirections before a command end the script, and whether its
assignments stay. -/
def isSpecial (name : String) : Bool :=
  (Builtin.special? name).isSome || name = "eval" || name = "." || name = "exec"

/-- Carries out the words of a command.  `plainly` passes over functions. -/
def dispatch (surroundings : Surroundings) (next : Level) (line : Nat) (report : Channel) (plainly : Bool) :
    List String → Process → Process
  | [], process => process.withStatus 0
  | "command" :: "-v" :: names, process => describeAll surroundings true (names.take 1) process
  | "command" :: "-V" :: names, process => describeAll surroundings false (names.take 1) process
  | "command" :: rest, process => dispatch surroundings next line report true rest process
  | name :: arguments, process =>
      match Builtin.special? name with
      | some builtin => builtin line arguments process
      | none =>
          if name = "eval" then next.runScript (Script.read (" ".intercalate arguments)) process
          else if name = "exec" then become next line arguments process
          else if name = "." then
            match arguments with
            | path :: _ => runFile next line path process
            | [] => process.withStatus 0
          else
            match if plainly then none else Table.get? name process.functions with
            | some body => callFunction next body arguments process
            | none =>
                if name = "type" then describeAll surroundings false arguments process
                else
                  match Builtin.plain? surroundings name with
                  | some builtin => builtin line arguments process
                  | none => runProgram next line report name arguments process

/-- A command without words: its assignments stay. -/
def assignOnly (next : Level) (assignments : List (String × Word)) (redirections : List Redirection)
    (process : Process) : Process :=
  Redirected.within next redirections id (fun process =>
    let assigned := assignAll next false assignments process
    if assigned.isOnward then assigned.withStatus (assigned.outputStatus.getD 0) else assigned)
    process

/-- A command with words.  Redirections of a shell that gives way to a program stay. -/
def runWords (surroundings : Surroundings) (next : Level) (line : Nat)
    (assignments : List (String × Word)) (redirections : List Redirection) (words : List String)
    (process : Process) : Process :=
  let special := (words.head?.map isSpecial).getD false
  let act (ready : Process) : Process :=
    let assigned := assignAll next (!special) assignments ready
    if !assigned.isOnward then assigned
    else
      let ran := dispatch surroundings next line (process.channel 2) false words assigned
      if special then ran else restoreVariables (assignments.map Prod.fst) ready ran
  let refused (process : Process) : Process := if special then process.leave process.status else process
  if words.head? = some "exec" then
    let (ready, made) := Redirected.applyAll next redirections process
    if made then act ready else if ready.isOnward then refused (ready.withStatus 2) else ready
  else Redirected.within next redirections refused act process

def simple (surroundings : Surroundings) (next : Level) (line : Nat)
    (assignments : List (String × Word)) (words : List Word) (redirections : List Redirection)
    (process : Process) : Process :=
  let ready := { process with line := line, outputStatus := none }
  let (texts, process) := Expansion.expandWords next words ready
  if !process.isOnward then process
  else if texts.isEmpty then assignOnly next assignments redirections process
  else runWords surroundings next line assignments redirections texts process

/-- Goes on after a stage that ran beside others. -/
def join (process ran : Process) : Process :=
  { process.rejoin ran with input := process.input, clock := max process.clock ran.clock }

/-- Runs stages that all start at one time; each reads what the one before it has written. -/
def pipe (next : Level) (start : Nat) : List Command → ByteArray → Process → Process
  | [], _, process => process
  | [stage], input, process =>
      join process (next.runApart (next.commands [stage]) { process with input := input, clock := start })
  | stage :: rest, input, process =>
      let (ready, number) := process.addBuffer
      let ready := { ready with input := input, clock := start }
      let ran := next.runApart (next.commands [stage]) (ready.setChannel 1 (.buffer number))
      let (ran, bytes) := ran.takeBuffer
      let joined := join process ran
      if joined.isOnward then pipe next start rest bytes joined else joined

/-- A command that nothing waits for.  Its own time does not count here. -/
def background (next : Level) (command : Command) (process : Process) : Process :=
  let ran := next.runApart (next.commands [command]) { process with input := .empty, tested := false }
  { process.share ran with status := 0, clock := process.clock, input := process.input }

def subshell (next : Level) (body : List Command) (process : Process) : Process :=
  process.rejoin (next.runApart (next.commands body) process)

def choose (next : Level) (otherwise : List Command) :
    List (List Command × List Command) → Process → Process
  | [], process => if otherwise.isEmpty then process.withStatus 0 else next.commands otherwise process
  | (condition, body) :: rest, process =>
      let asked := runTested next condition process
      if !asked.isOnward then asked
      else if asked.status = 0 then next.commands body asked
      else choose next otherwise rest asked

def turnLimit : Nat := 100000

/-- What follows a turn of a loop, and whether it turns again. -/
def afterTurn (process : Process) : Process × Bool :=
  match process.flow with
  | .onward => (process, true)
  | .breaking levels =>
      ({ process with flow := if levels ≤ 1 then .onward else .breaking (levels - 1) }, false)
  | .continuing levels =>
      if levels ≤ 1 then ({ process with flow := .onward }, true)
      else ({ process with flow := .continuing (levels - 1) }, false)
  | _ => (process, false)

/-- Turns until the condition ends otherwise.  `status` is that of the turn before. -/
def turn (next : Level) (onSuccess : Bool) (condition body : List Command) :
    Nat → Nat → Process → Process
  | 0, _, process => Level.stall process
  | count + 1, status, process =>
      match afterTurn (runTested next condition process) with
      | (asked, false) => asked
      | (asked, true) =>
          if (asked.status == 0) != onSuccess then asked.withStatus status
          else
            match afterTurn (next.commands body asked) with
            | (turned, true) => turn next onSuccess condition body count turned.status turned
            | (turned, false) => turned

def turnEach (next : Level) (name : String) (body : List Command) : List String → Process → Process
  | [], process => process
  | value :: rest, process =>
      match afterTurn (next.commands body (process.setVariable name value)) with
      | (turned, true) => turnEach next name body rest turned
      | (turned, false) => turned

def inLoop (act : Process → Process) (process : Process) : Process :=
  { act { process with loops := process.loops + 1 } with loops := process.loops }

def matchesAny (next : Level) (text : String) : List Word → Process → Bool × Process
  | [], process => (false, process)
  | pattern :: rest, process =>
      let (tokens, process) := next.tokens pattern process
      if Glob.covers (Glob.items (Expansion.fieldOfTokens tokens)) text.toList then (true, process)
      else matchesAny next text rest process

def select (next : Level) (text : String) : List (List Word × List Command) → Process → Process
  | [], process => process.withStatus 0
  | (patterns, body) :: rest, process =>
      let (found, process) := matchesAny next text patterns process
      if !process.isOnward then process
      else if found then (if body.isEmpty then process.withStatus 0 else next.commands body process)
      else select next text rest process

def around (next : Level) (redirections : List Redirection) (act : Process → Process) : Process → Process :=
  Redirected.within next redirections id act

def command (surroundings : Surroundings) (next : Level) : Command → Process → Process
  | .simple line assignments words redirections, process =>
      checked (simple surroundings next line assignments words redirections process)
  | .pipeline negated stages, process =>
      let ready := { process with tested := process.tested || negated }
      let ran := { pipe next process.clock stages process.input ready with tested := process.tested }
      if negated then
        if ran.isOnward then ran.withStatus (if ran.status = 0 then 1 else 0) else ran
      else checked ran
  | .both first second, process =>
      let ran := runTested next [first] process
      if ran.isOnward && ran.status = 0 then next.commands [second] ran else ran
  | .either first second, process =>
      let ran := runTested next [first] process
      if ran.isOnward && ran.status ≠ 0 then next.commands [second] ran else ran
  | .background command, process => background next command process
  | .group body redirections, process => around next redirections (next.commands body) process
  | .subshell body redirections, process =>
      checked (around next redirections (subshell next body) process)
  | .conditional branches otherwise redirections, process =>
      around next redirections (choose next otherwise branches) process
  | .loop onSuccess condition body redirections, process =>
      around next redirections (inLoop (turn next onSuccess condition body turnLimit 0)) process
  | .each name words body redirections, process =>
      around next redirections (fun process =>
        let (values, process) := match words with
          | some words => Expansion.expandWords next words process
          | none => (process.arguments, process)
        if !process.isOnward then process
        else if values.isEmpty then process.withStatus 0
        else inLoop (turnEach next name body values) process) process
  | .cases word branches redirections, process =>
      around next redirections (fun process =>
        let (text, process) := Expansion.expandText next word process
        if process.isOnward then select next text branches process else process) process
  | .definition name body, process =>
      { process with status := 0, functions := Table.insert name body process.functions }

def commands (surroundings : Surroundings) (next : Level) (list : List Command) (process : Process) :
    Process :=
  list.foldl (fun process item => if process.isOnward then command surroundings next item process else process)
    process

end Groundwork.Rehearsal.Interpreter
