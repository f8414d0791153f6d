import Groundwork.Child.Command
import Groundwork.Rehearsal.Script

namespace Groundwork.Rehearsal

/-! A process that runs a script.

Time passes only while a process sleeps.  Once the outermost parent has stopped waiting, the process
does nothing more.
-/

inductive Channel where
  /-- Bytes that are kept for someone: the parent, or the next stage of a pipeline. -/
  | buffer (number : Nat)
  | file (place : Location)
  | nowhere
  deriving DecidableEq

inductive Exit where
  | status (number : Nat)
  | signal (number : Nat)
  deriving DecidableEq, Repr

def Exit.number : Exit → Nat
  | .status number => number
  | .signal number => 128 + number

inductive Flow where
  | onward
  | breaking (levels : Nat)
  | continuing (levels : Nat)
  | returning
  | leaving (exit : Exit)
  /-- The outermost parent no longer waits. -/
  | stopped (wait : Wait)
  deriving DecidableEq, Repr

structure Variable where
  value : String
  exported : Bool
  deriving DecidableEq, Repr

/-- What is the same for all processes under one parent. -/
structure Surroundings where
  patience : Patience
  /-- The process number of the outermost parent. -/
  parent : Nat

structure Process where
  store : Store
  /-- What the buffers hold; the first two go to the parent. -/
  buffers : List ByteArray
  /-- Descriptors other than the input. -/
  channels : List (Nat × Channel)
  input : ByteArray
  /-- Nanoseconds since the outermost child was started. -/
  clock : Nat
  vars : Table Variable
  functions : Table Command
  /-- The working directory as the script has come to it. -/
  directory : String
  /-- What the script was called by. -/
  name : String
  arguments : List String
  status : Nat
  /-- The status of the last script whose output was put into a word. -/
  outputStatus : Option Nat
  flow : Flow
  number : Nat
  parentNumber : Nat
  /-- Whether a failing command ends the script. -/
  strict : Bool
  /-- Whether using an unset variable ends the script. -/
  demanding : Bool
  /-- Whether the status of the running command is looked at. -/
  tested : Bool
  /-- How many loops the running command is in. -/
  loops : Nat
  /-- What the variables were outside that the running function has for itself. -/
  hidden : List (String × Option Variable)
  /-- What is done when the script ends. -/
  finalScript : String
  /-- Where the running command begins. -/
  line : Nat

namespace Process

def isOnward (process : Process) : Bool :=
  process.flow = .onward

def channel (process : Process) (descriptor : Nat) : Channel :=
  (process.channels.lookup descriptor).getD .nowhere

def setChannel (process : Process) (descriptor : Nat) (channel : Channel) : Process :=
  { process with
    channels := (descriptor, channel) :: process.channels.filter (fun entry => entry.1 != descriptor) }

def write (process : Process) (channel : Channel) (bytes : ByteArray) : Process :=
  match channel with
  | .nowhere => process
  | .buffer number => { process with buffers := process.buffers.modify number (· ++ bytes) }
  | .file place =>
      match process.store.get? place with
      | some (.file present mode) =>
          { process with store := process.store.put place (.file (present ++ bytes) mode) }
      | _ => process

def print (process : Process) (bytes : ByteArray) : Process :=
  process.write (process.channel 1) bytes

def printText (process : Process) (text : String) : Process :=
  process.print text.toUTF8

def complain (process : Process) (bytes : ByteArray) : Process :=
  process.write (process.channel 2) bytes

def complainAt (process : Process) (line : Nat) (text : String) : Process :=
  process.complain (process.name ++ ": " ++ toString line ++ ": " ++ text ++ "\n").toUTF8

def withStatus (process : Process) (status : Nat) : Process :=
  { process with status := status }

def leave (process : Process) (status : Nat) : Process :=
  { process with status := status, flow := .leaving (.status status) }

def addBuffer (process : Process) : Process × Nat :=
  ({ process with buffers := process.buffers ++ [.empty] }, process.buffers.length)

def takeBuffer (process : Process) : Process × ByteArray :=
  ({ process with buffers := process.buffers.dropLast }, process.buffers.getLast?.getD .empty)

/-- Whether the limit of the outermost parent is reached at a time. -/
def isLate (surroundings : Surroundings) (clock : Nat) : Bool :=
  match surroundings.patience.limit with
  | some limit => limit.toNanoseconds ≤ clock
  | none => false

def sleep (surroundings : Surroundings) (nanoseconds : Nat) (process : Process) : Process :=
  let clock := process.clock + nanoseconds
  if isLate surroundings clock then { process with clock := clock, flow := .stopped .timedOut }
  else { process with clock := clock }

def value? (process : Process) (name : String) : Option String :=
  (Table.get? name process.vars).map Variable.value

def setVariable (process : Process) (name value : String) : Process :=
  let exported := ((Table.get? name process.vars).map Variable.exported).getD false
  { process with vars := Table.insert name ⟨value, exported⟩ process.vars }

def exportVariable (process : Process) (name : String) : Process :=
  let value := (process.value? name).getD ""
  { process with vars := Table.insert name ⟨value, true⟩ process.vars }

def unsetVariable (process : Process) (name : String) : Process :=
  { process with vars := Table.erase name process.vars }

/-- The drawer, of thirty-nine, that a shell keeps a variable in; it lists one drawer after the other. -/
def drawer (name : String) : Nat :=
  let codes := name.toUTF8.toList.map UInt8.toNat
  (16 * codes.headD 0 + codes.foldl (· + ·) 0) % 39

def environment (process : Process) : List (String × String) :=
  let exported := process.vars.filterMap fun (name, stored) =>
    if stored.exported then some (name, stored.value) else none
  exported.mergeSort fun first second => drawer first.1 ≤ drawer second.1

def isName (name : String) : Bool :=
  match name.toList with
  | first :: rest => Vars.isNameStart first && rest.all Vars.isNameLetter
  | [] => false

/-- The variables of a process that starts with an environment: what cannot be a name is passed over. -/
def variablesOf (environment : List (String × String)) : Table Variable :=
  Table.ofList (environment.filterMap fun (name, value) =>
    if isName name then some (name, ⟨value, true⟩) else none)

/-- Goes on after another process that shared files, buffers, input and time. -/
def share (process other : Process) : Process :=
  { process with
    store := { other.store with current := process.store.current }
    buffers := other.buffers
    input := other.input
    clock := other.clock }

/-- How a process has ended whose commands are all done. -/
def exit (process : Process) : Exit :=
  match process.flow with
  | .leaving exit => exit
  | _ => .status process.status

/-- Goes on after a child, whose ending becomes the status. -/
def resume (process child : Process) : Process :=
  let shared := process.share child
  match child.flow with
  | .stopped wait => { shared with flow := .stopped wait }
  | _ => { shared with status := child.exit.number }

/-- Goes on after a part of the script that ran in a copy of this process.  A signal to the copy was
meant for this process. -/
def rejoin (process copy : Process) : Process :=
  match copy.flow with
  | .leaving (.signal number) => { process.share copy with flow := .leaving (.signal number) }
  | _ => process.resume copy

end Process

end Groundwork.Rehearsal
