namespace Groundwork.CommandLine

/-! The words of a command line, and what they ask for.

Options may stand before and behind the command.  The taskfile and the debug switch are known in both
places, each at most once in each; behind the command they count for more.
-/

inductive Verb where
  | run
  | plan
  | list
  | check
  | config
  deriving DecidableEq, Repr

namespace Verb

def all : List Verb := [.run, .plan, .list, .check, .config]

def name : Verb → String
  | .run => "run"
  | .plan => "plan"
  | .list => "list"
  | .check => "check"
  | .config => "config"

def ofName? (name : String) : Option Verb :=
  all.find? (fun verb => verb.name = name)

/-- Whether it is about tasks, of which it then needs one at least. -/
def takesTasks : Verb → Bool
  | .run | .plan | .check => true
  | .list | .config => false

end Verb

/-- What a run is asked for besides its tasks. -/
structure RunOptions where
  dryRun : Bool
  json : Bool
  deriving DecidableEq, Repr

inductive Request where
  | run (tasks : List String) (options : RunOptions)
  | plan (tasks : List String)
  | list
  | check (tasks : List String)
  | config
  deriving DecidableEq, Repr

structure Invocation where
  taskfile : Option String
  debug : Bool
  request : Request
  deriving DecidableEq, Repr

/-- What becomes of the words of a command line. -/
inductive Reading where
  | accepted (invocation : Invocation)
  | version
  | help
  | refused
  deriving DecidableEq, Repr

structure Options where
  taskfile : Option String
  debug : Bool
  dryRun : Bool
  json : Bool

def Options.none_ : Options := ⟨none, false, false, false⟩

structure Reader where
  verb : Option Verb
  /-- The options before the command. -/
  outer : Options
  /-- The options behind the last command that was met. -/
  inner : Options
  tasks : List String
  /-- Whether the next word is the value of an option. -/
  awaiting : Bool

/-- One step of reading: it goes on, or its end is clear already. -/
abbrev Advance := Except Reading Reader

namespace Reader

def start : Reader := ⟨none, .none_, .none_, [], false⟩

def refuse : Advance := .error .refused

/-- A taskfile is named once in a place, and its name is not empty. -/
def setTaskfile (path : String) (reader : Reader) : Advance :=
  if path.isEmpty || reader.inner.taskfile.isSome then refuse
  else .ok { reader with inner := { reader.inner with taskfile := some path }, awaiting := false }

def awaitTaskfile (reader : Reader) : Advance :=
  if reader.inner.taskfile.isSome then refuse else .ok { reader with awaiting := true }

def setDebug (reader : Reader) : Advance :=
  if reader.inner.debug then refuse
  else .ok { reader with inner := { reader.inner with debug := true } }

def setDryRun (reader : Reader) : Advance :=
  if reader.verb ≠ some .run || reader.inner.dryRun then refuse
  else .ok { reader with inner := { reader.inner with dryRun := true } }

def setJson (reader : Reader) : Advance :=
  if reader.verb ≠ some .run || reader.inner.json then refuse
  else .ok { reader with inner := { reader.inner with json := true } }

def askVersion (reader : Reader) : Advance :=
  if reader.verb.isNone then .error .version else refuse

/-- Letters behind a single dash; the taskfile takes all that are left. -/
def letters : List Char → Reader → Advance
  | [], reader => .ok reader
  | 'd' :: rest, reader => do letters rest (← reader.setDebug)
  | 'f' :: rest, reader =>
      match rest with
      | [] => reader.awaitTaskfile
      | '=' :: path | path => reader.setTaskfile (String.ofList path)
  | 'h' :: _, _ => .error .help
  | 'V' :: _, reader => reader.askVersion
  | _ :: _, _ => refuse

/-- An option by its long name, and the value behind an equals sign. -/
def long (name : String) (value : Option String) (reader : Reader) : Advance :=
  match name, value with
  | "taskfile", some path => reader.setTaskfile path
  | "taskfile", none => reader.awaitTaskfile
  | "debug", none => reader.setDebug
  | "dry-run", none => reader.setDryRun
  | "json", none => reader.setJson
  | "help", none => .error .help
  | "version", none => reader.askVersion
  | _, _ => refuse

/-- A word that is no option. -/
def word (text : String) (reader : Reader) : Advance :=
  match reader.verb with
  | some verb => if verb.takesTasks then .ok { reader with tasks := reader.tasks ++ [text] } else refuse
  | none =>
      match Verb.ofName? text with
      | some verb => .ok { reader with verb := some verb, outer := reader.inner, inner := .none_ }
      | none => refuse

/-- Reads one word; a lone dash is no option. -/
def argument (text : String) (reader : Reader) : Advance :=
  match text.toList with
  | '-' :: '-' :: rest =>
      if reader.awaiting then refuse
      else
        let name := rest.takeWhile (· != '=')
        let value := rest.drop name.length
        reader.long (String.ofList name) (if value.isEmpty then none else some (String.ofList value.tail))
  | '-' :: letter :: rest => if reader.awaiting then refuse else reader.letters (letter :: rest)
  | _ => if reader.awaiting then reader.setTaskfile text else reader.word text

def finish (reader : Reader) : Reading :=
  let taskfile := reader.inner.taskfile.or reader.outer.taskfile
  let debug := reader.inner.debug || reader.outer.debug
  let about (make : List String → Request) : Reading :=
    if reader.tasks.isEmpty then .refused else .accepted ⟨taskfile, debug, make reader.tasks⟩
  if reader.awaiting then .refused
  else
    match reader.verb with
    | none => .refused
    | some .run => about fun tasks => .run tasks ⟨reader.inner.dryRun, reader.inner.json⟩
    | some .plan => about .plan
    | some .check => about .check
    | some .list => .accepted ⟨taskfile, debug, .list⟩
    | some .config => .accepted ⟨taskfile, debug, .config⟩

/-- Behind two dashes every word is a task. -/
def tasksOnly (reader : Reader) : List String → Reading
  | [] => reader.finish
  | text :: rest =>
      match reader.verb.isSome, reader.word text with
      | true, .ok reader => tasksOnly reader rest
      | _, _ => .refused

def helpOn : List String → Reading
  | [] => .help
  | [name] => if (Verb.ofName? name).isSome || name = "help" then .help else .refused
  | _ => .refused

def run : List String → Reader → Reading
  | [], reader => reader.finish
  | text :: rest, reader =>
      if text = "--" then if reader.awaiting then .refused else tasksOnly reader rest
      else if text = "help" && reader.verb.isNone && !reader.awaiting then helpOn rest
      else
        match reader.argument text with
        | .ok reader => run rest reader
        | .error reading => reading

end Reader

def read (words : List String) : Reading :=
  Reader.run words .start

end Groundwork.CommandLine
