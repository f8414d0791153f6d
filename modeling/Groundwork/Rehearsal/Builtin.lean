import Groundwork.Rehearsal.Level

namespace Groundwork.Rehearsal

/-! Commands that the shell carries out itself. -/

/-- Gets the line that it stands on and its arguments. -/
abbrev Builtin := Nat → List String → Process → Process

namespace Builtin

def complainAs (name : String) (line : Nat) (text : String) (process : Process) : Process :=
  process.complainAt line (name ++ ": " ++ text)

def succeed : Builtin := fun _ _ process => process.withStatus 0

def fail : Builtin := fun _ _ process => process.withStatus 1

/-- A tool, whose complaints say where in the script it stands. -/
def ofTool (name : String) (tool : Tool) : Builtin := fun line arguments process =>
  let effect := tool ⟨name, arguments, process.environment, process.input, process.store⟩
  let printed := { process with store := effect.store }.print effect.printed
  let complained :=
    if effect.complained.isEmpty then printed
    else printed.complain ((process.name ++ ": " ++ toString line ++ ": ").toUTF8 ++ effect.complained)
  complained.withStatus effect.status

def echo : Builtin := fun _ arguments process =>
  (process.print (Format.echoed arguments)).withStatus 0

/-- The number that an argument gives; the script ends when it gives none. -/
def withNumber (name : String) (otherwise : Nat) (act : Nat → Process → Process) : Builtin :=
  fun line arguments process =>
    match arguments with
    | [] => act otherwise process
    | text :: _ =>
        match Decimal.readDigits? text.toList with
        | some number => act number process
        | none => (complainAs name line ("Illegal number: " ++ text) process).leave 2

def exit : Builtin := fun line arguments process =>
  withNumber "exit" process.status (fun number process => process.leave (number % 256)) line arguments
    process

def return_ : Builtin := fun line arguments process =>
  withNumber "return" process.status
    (fun number process => { process with status := number % 256, flow := .returning }) line arguments
    process

/-- Outside of loops there is nothing to leave. -/
def leaveLoops (name : String) (flow : Nat → Flow) : Builtin :=
  withNumber name 1 fun number process =>
    let levels := min number process.loops
    { process with status := 0, flow := if levels = 0 then .onward else flow levels }

def shift : Builtin :=
  fun line arguments process =>
    withNumber "shift" 1 (fun number process =>
      if process.arguments.length < number then
        (complainAs "shift" line "can't shift that many" process).leave 2
      else { process with status := 0, arguments := process.arguments.drop number })
      line arguments process

/-- The name and the value of an argument such as `NAME=VALUE`. -/
def splitAssignment (argument : String) : String × Option String :=
  let letters := argument.toList
  let name := letters.takeWhile (· != '=')
  if name.length = letters.length then (argument, none)
  else (String.ofList name, some (String.ofList (letters.drop (name.length + 1))))

def assign (argument : String) (process : Process) : Process :=
  match splitAssignment argument with
  | (name, some value) => process.setVariable name value
  | (_, none) => process

/-- Assigns what the arguments say, and then does something with each name. -/
def declare (name : String) (act : String → Process → Process) : Builtin :=
  fun line arguments process =>
    let arguments := arguments.filter fun argument => argument.toList.head? ≠ some '-'
    match arguments.find? fun argument => !Process.isName (splitAssignment argument).1 with
    | some argument => (complainAs name line (argument ++ ": bad variable name") process).leave 2
    | none =>
        (arguments.foldl (fun process argument =>
          assign argument (act (splitAssignment argument).1 process)) process).withStatus 0

/-- Gives the running function a variable of its own. -/
def hide (name : String) (process : Process) : Process :=
  { process with hidden := (name, Table.get? name process.vars) :: process.hidden }

def inQuotes (value : String) : String :=
  "'" ++ "'\"'\"'".intercalate (Text.split '\'' value) ++ "'"

/-- Without names, shows all variables that children get. -/
def export_ : Builtin := fun line arguments process =>
  if arguments.isEmpty || arguments = ["-p"] then
    let shown := process.vars.filterMap fun (name, stored) =>
      if stored.exported then some ("export " ++ name ++ "=" ++ inQuotes stored.value ++ "\n") else none
    (process.printText (String.join shown)).withStatus 0
  else declare "export" (fun name process => process.exportVariable name) line arguments process

def unset : Builtin := fun _ arguments process =>
  let names := arguments.filter fun argument => argument.toList.head? ≠ some '-'
  let after :=
    if arguments.contains "-f" then
      { process with functions := names.foldl (fun known name => Table.erase name known) process.functions }
    else names.foldl Process.unsetVariable process
  after.withStatus 0

def setOption (on : Bool) (process : Process) : Char → Process
  | 'e' => { process with strict := on }
  | 'u' => { process with demanding := on }
  | _ => process

def setNamedOption (on : Bool) (name : String) (process : Process) : Process :=
  match name with
  | "errexit" => setOption on process 'e'
  | "nounset" => setOption on process 'u'
  | _ => process

/-- Options and then arguments; without arguments those of the script stay. -/
def setFrom : List String → Process → Process
  | [], process => process
  | "-o" :: name :: rest, process => setFrom rest (setNamedOption true name process)
  | "+o" :: name :: rest, process => setFrom rest (setNamedOption false name process)
  | argument :: rest, process =>
      match argument.toList with
      | ['-', '-'] => { process with arguments := rest }
      | '-' :: letter :: letters => setFrom rest ((letter :: letters).foldl (setOption true) process)
      | '+' :: letter :: letters => setFrom rest ((letter :: letters).foldl (setOption false) process)
      | _ => { process with arguments := argument :: rest }

def set : Builtin := fun _ arguments process => (setFrom arguments process).withStatus 0

def unquoted : List Char → List Char
  | [] => []
  | ['\\'] => []
  | '\\' :: letter :: rest => letter :: unquoted rest
  | letter :: rest => letter :: unquoted rest

/-- Splits a line into as many values as there are names; the last value is all that is left. -/
def valuesFor (separators : List Char) : List String → List Char → List (String × String)
  | [], _ => []
  | [name], letters =>
      let trimmed := (letters.dropWhile separators.contains).reverse.dropWhile separators.contains
      [(name, String.ofList trimmed.reverse)]
  | name :: rest, letters =>
      let letters := letters.dropWhile separators.contains
      let word := letters.takeWhile (!separators.contains ·)
      (name, String.ofList word) :: valuesFor separators rest (letters.drop word.length)

/-- A line that the input ends within still counts as one, but the status says so. -/
def read : Builtin := fun line arguments process =>
  let names := arguments.filter fun argument => argument.toList.head? ≠ some '-'
  if names.isEmpty then (complainAs "read" line "arg count" process).withStatus 2
  else
    let bytes := process.input.toList
    let taken := bytes.takeWhile (· ≠ 10)
    let text := (Text.Utf8.readReplacing ⟨taken.toArray⟩).toList
    let text := if arguments.contains "-r" then text else unquoted text
    let values := valuesFor (Expansion.separator process) names text
    let assigned := values.foldl (fun process (name, value) => process.setVariable name value) process
    { assigned with
      input := ⟨(bytes.drop (taken.length + 1)).toArray⟩
      status := if taken.length < bytes.length then 0 else 1 }

/-- The path of a directory as the script comes to it: a double dot takes back the name before it. -/
def comeTo (directory path : String) : String :=
  let from_ := if Path.isAbsolute path then [] else Path.parts directory
  let names := (Path.parts path).foldl (fun names part =>
    if part = "." then names else if part = ".." then names.dropLast else names ++ [part]) from_
  Store.pathOf names

def changeDirectory : Builtin := fun line arguments process =>
  let asked := match arguments.filter (fun argument => argument ≠ "--" && argument ≠ "-P" && argument ≠ "-L") with
    | [] => (process.value? "HOME").getD ""
    | "-" :: _ => (process.value? "OLDPWD").getD ""
    | path :: _ => path
  let path := comeTo process.directory asked
  match process.store.entryAt true path with
  | .ok (place, .directory _) =>
      let moved := { process with store := { process.store with current := place }, directory := path }
      let noted := ((moved.setVariable "OLDPWD" process.directory).exportVariable "OLDPWD").setVariable
        "PWD" path
      let shown := if arguments = ["-"] then noted.printText (path ++ "\n") else noted
      (shown.exportVariable "PWD").withStatus 0
  | _ => (complainAs "cd" line ("can't cd to " ++ asked) process).withStatus 2

def printDirectory : Builtin := fun _ _ process =>
  (process.printText (process.directory ++ "\n")).withStatus 0

def signals : List (String × Nat) :=
  [("HUP", 1), ("INT", 2), ("QUIT", 3), ("ILL", 4), ("TRAP", 5), ("ABRT", 6), ("BUS", 7), ("FPE", 8),
    ("KILL", 9), ("USR1", 10), ("SEGV", 11), ("USR2", 12), ("PIPE", 13), ("ALRM", 14), ("TERM", 15),
    ("CHLD", 17), ("CONT", 18), ("STOP", 19), ("TSTP", 20), ("URG", 23), ("WINCH", 28)]

/-- Signals that a process does not end of. -/
def isHarmless (signal : Nat) : Bool :=
  [0, 17, 18, 23, 28].contains signal

def signalOf? (text : String) : Option Nat :=
  match Decimal.readDigits? text.toList with
  | some number => if number ≤ 64 then some number else none
  | none =>
      let name := if "SIG".toList.isPrefixOf text.toList then String.ofList (text.toList.drop 3) else text
      signals.lookup name

def signal (surroundings : Surroundings) (line signal : Nat) (process : Process) (target : String) :
    Process :=
  match Decimal.readDigits? target.toList with
  | none => (complainAs "kill" line ("Illegal number: " ++ target) process).leave 2
  | some number =>
      if number = process.number then
        if isHarmless signal then process else { process with flow := .leaving (.signal signal) }
      else if number = surroundings.parent then
        if signal = 2 && surroundings.patience.interruptible then
          { process with flow := .stopped .interrupted }
        else process
      else (complainAs "kill" line "No such process\n" process).withStatus 1

def usageOfKill : String :=
  "Usage: kill [-s sigspec | -signum | -sigspec] [pid | job]... or\nkill -l [exitstatus]"

def kill (surroundings : Surroundings) : Builtin := fun line arguments process =>
  let (name, targets) : Option String × List String := match arguments with
    | "-s" :: name :: rest => (some name, rest)
    | "--" :: rest => (none, rest)
    | first :: rest =>
        match first.toList with
        | '-' :: letter :: letters => (some (String.ofList (letter :: letters)), rest)
        | _ => (none, first :: rest)
    | [] => (none, [])
  match signalOf? (name.getD "TERM") with
  | none => (complainAs "kill" line ("invalid signal number or name: " ++ name.getD "") process).withStatus 2
  | some number =>
      if targets.isEmpty then (complainAs "kill" line usageOfKill process).withStatus 2
      else targets.foldl (fun process target =>
        if process.isOnward then signal surroundings line number process target else process)
        (process.withStatus 0)

/-- Only what is done at the end of a script is kept. -/
def trap : Builtin := fun _ arguments process =>
  match arguments with
  | script :: conditions =>
      if conditions.contains "EXIT" || conditions.contains "0" then
        { process with status := 0, finalScript := if script = "-" then "" else script }
      else process.withStatus 0
  | [] => process.withStatus 0

def umask : Builtin := fun _ arguments process =>
  (if arguments.isEmpty then process.printText "0022\n" else process).withStatus 0

/-- Those that a function cannot take the place of, and whose failures end a script. -/
def special? (name : String) : Option Builtin :=
  match name with
  | ":" | "times" => some succeed
  | "exit" => some exit
  | "return" => some return_
  | "break" => some (leaveLoops "break" .breaking)
  | "continue" => some (leaveLoops "continue" .continuing)
  | "shift" => some shift
  | "export" => some export_
  | "readonly" => some (declare "readonly" fun _ => id)
  | "unset" => some unset
  | "set" => some set
  | "trap" => some trap
  | _ => none

def plain? (surroundings : Surroundings) (name : String) : Option Builtin :=
  match name with
  | "true" | "wait" | "hash" | "jobs" | "ulimit" | "alias" | "unalias" => some succeed
  | "false" => some fail
  | "echo" => some echo
  | "printf" => some (ofTool name Format.printFormatted)
  | "test" | "[" => some (ofTool name Condition.test)
  | "cd" => some changeDirectory
  | "pwd" => some printDirectory
  | "read" => some read
  | "kill" => some (kill surroundings)
  | "local" => some (declare "local" hide)
  | "umask" => some umask
  | _ => none

/-- Those that need the level below. -/
def deeper : List String := ["eval", ".", "exec", "command", "type"]

end Builtin

end Groundwork.Rehearsal
