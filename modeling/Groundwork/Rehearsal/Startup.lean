import Groundwork.Rehearsal.Interpreter

namespace Groundwork.Rehearsal

/-! How programs start and end. -/

namespace Startup

/-- A process for a program, beside the one that starts it. -/
def child (environment : List (String × String)) (name : String) (arguments : List String) (process : Process) :
    Process :=
  { process with
    vars := Process.variablesOf environment
    functions := []
    name := name
    arguments := arguments
    directory := Store.pathOf process.store.current
    status := 0
    outputStatus := none
    flow := .onward
    number := process.number + 1
    parentNumber := process.number
    strict := false
    demanding := false
    tested := false
    loops := 0
    hidden := []
    finalScript := "" }

def runTool (surroundings : Surroundings) (tool : Tool) (executable : Executable)
    (environment : List (String × String)) (process : Process) : Process :=
  let effect := tool
    ⟨executable.name, executable.arguments, environment, process.input, process.store⟩
  let done := ({ process with store := effect.store }.print effect.printed).complain effect.complained
  Process.sleep surroundings effect.delay (done.withStatus effect.status)

structure ShellOptions where
  strict : Bool
  demanding : Bool
  /-- Whether the first operand is the script itself. -/
  inWords : Bool
  operands : List String

def ShellOptions.add (options : ShellOptions) : Char → ShellOptions
  | 'c' => { options with inWords := true }
  | 'e' => { options with strict := true }
  | 'u' => { options with demanding := true }
  | _ => options

def ShellOptions.read : List String → ShellOptions → ShellOptions
  | [], options => options
  | argument :: rest, options =>
      match argument.toList with
      | ['-', '-'] => { options with operands := rest }
      | ['-'] => { options with operands := rest }
      | '-' :: letter :: letters => read rest ((letter :: letters).foldl ShellOptions.add options)
      | _ => { options with operands := argument :: rest }

/-- The working directory as a shell finds it, which every shell tells its children. -/
def enter (process : Process) : Process :=
  let place := process.store.current
  let directory := match process.value? "PWD" with
    | some path =>
        if Path.isAbsolute path && ((process.store.entryAt true path).toOption.map Prod.fst) = some place then
          path
        else Store.pathOf place
    | none => Store.pathOf place
  { process with directory := directory }.setVariable "PWD" directory |>.exportVariable "PWD"

def runText (next : Level) (options : ShellOptions) (text : String) (process : Process) : Process :=
  let ready := { enter process with strict := options.strict, demanding := options.demanding }
  next.finish (next.runScript (Script.read text) ready)

/-- A shell with a script among its arguments, in a file, or else in its input. -/
def runShell (next : Level) (executable : Executable) (process : Process) : Process :=
  let options := ShellOptions.read executable.arguments ⟨false, false, false, []⟩
  match options.inWords, options.operands with
  | true, [] => (process.complainAt 0 "-c requires an argument").leave 2
  | true, script :: rest =>
      let ready := { process with name := rest.head?.getD process.name, arguments := rest.drop 1 }
      runText next options script ready
  | false, [] =>
      runText next options (Text.Utf8.readReplacing process.input) { process with input := .empty }
  | false, file :: arguments =>
      match process.store.readBytes file with
      | .ok bytes =>
          runText next options (Text.Utf8.readReplacing bytes)
            { process with name := file, arguments := arguments }
      | .error cause =>
          (process.complainAt 0 ("cannot open " ++ file ++ ": " ++
            Redirected.reason "No such file" cause)).leave 2

/-- Writes a variable over the one with its name, or behind all others. -/
def withEntry (name value : String) : List (String × String) → List (String × String)
  | [] => [(name, value)]
  | entry :: rest => if entry.1 = name then (name, value) :: rest else entry :: withEntry name value rest

/-- The environment that the arguments ask for, and the words of the program behind them. -/
def readStarter : List String → List (String × String) → List (String × String) × List String
  | [], environment => (environment, [])
  | "-i" :: rest, _ | "-" :: rest, _ => readStarter rest []
  | "-u" :: name :: rest, environment => readStarter rest (Table.erase name environment)
  | "--" :: rest, environment => readStarter rest environment
  | argument :: rest, environment =>
      match Builtin.splitAssignment argument with
      | (name, some value) => readStarter rest (withEntry name value environment)
      | (_, none) => (environment, argument :: rest)

def runStarter (surroundings : Surroundings) (next : Level) (executable : Executable)
    (environment : List (String × String)) (process : Process) : Process :=
  match readStarter executable.arguments environment with
  | (environment, []) =>
      runTool surroundings Toolbox.printEnvironment { executable with arguments := [] } environment process
  | (environment, name :: arguments) =>
      match Executable.find process.store environment name arguments with
      | .ok found =>
          match found.image with
          | .text => runShell next ⟨.shell, found.path, found.path, found.path :: found.arguments⟩
              (child environment found.path [] process)
          | _ => next.run found environment process
      | .error cause =>
          let text := executable.name ++ ": '" ++ name ++ "': " ++ Call.attempt.reason cause ++ "\n"
          (process.complain text.toUTF8).withStatus (if cause = .notFound then 127 else 126)

/-- Runs a program in a process of its own, which is given as it is when the program is done. -/
def run (surroundings : Surroundings) (next : Level) (executable : Executable)
    (environment : List (String × String)) (process : Process) : Process :=
  let started := child environment executable.name [] process
  match executable.image with
  | .tool tool => runTool surroundings tool executable environment started
  | .shell => runShell next executable started
  | .starter => runStarter surroundings next executable environment started
  | .text => started.withStatus 126

end Startup

def Level.above (surroundings : Surroundings) (next : Level) : Level :=
  ⟨Interpreter.commands surroundings next, Expansion.wordTokens next, Startup.run surroundings next⟩

def Level.ofDepth (surroundings : Surroundings) : Nat → Level
  | 0 => .lowest
  | depth + 1 => .above surroundings (Level.ofDepth surroundings depth)

end Groundwork.Rehearsal
