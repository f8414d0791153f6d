import Groundwork.Rehearsal.Level

namespace Groundwork.Rehearsal.Redirected

/-! Commands with redirections.

Redirections are made from the left to the right, and the first that fails is complained about where
complaints go by then.
-/

/-- Why a file cannot be opened, as the shell puts it. -/
def reason (missing : String) (cause : IoCause) : String :=
  if cause = .notFound ∨ cause = .notDirectory then missing else Call.attempt.reason cause

def openInput (process : Process) (path : String) : Except IoCause ByteArray :=
  match process.store.entryAt true path with
  | .ok (_, .file bytes _) => .ok bytes
  | .ok _ => .ok .empty
  | .error cause => .error cause

def openOutput (process : Process) (change : ByteArray → ByteArray) (path : String) :
    Except IoCause (Store × Channel) :=
  match process.store.changeBytes change Store.fileMode path with
  | .error cause => .error cause
  | .ok store =>
      match store.entryAt true path with
      | .ok (place, .file ..) => .ok (store, .file place)
      | _ => .ok (store, .nowhere)

def write (process : Process) (line descriptor : Nat) (change : ByteArray → ByteArray) (path : String) :
    Process × Bool :=
  match openOutput process change path with
  | .ok (store, channel) => ({ process with store := store }.setChannel descriptor channel, true)
  | .error cause =>
      (process.complainAt line ("cannot create " ++ path ++ ": " ++ reason "Directory nonexistent" cause),
        false)

def copy (process : Process) (line descriptor : Nat) (text : String) : Process × Bool :=
  if text = "-" then (process.setChannel descriptor .nowhere, true)
  else
    match Decimal.readDigits? text.toList with
    | some other =>
        if descriptor = 0 then (process, true)
        else if (process.channels.lookup other).isSome then
          (process.setChannel descriptor (process.channel other), true)
        else (process.complainAt line (text ++ ": Bad file descriptor"), false)
    | none => (process.complainAt line "Syntax error: Bad fd number", false)

/-- Makes one redirection, and tells whether it could be made. -/
def apply (next : Level) : Redirection → Process → Process × Bool
  | .mk line descriptor kind word, process =>
      let (text, process) := Expansion.expandText next word process
      if !process.isOnward then (process, false)
      else
        match kind with
        | .here => ({ process with input := text.toUTF8 }, true)
        | .copy => copy process line descriptor text
        | .write => write process line descriptor (fun _ => .empty) text
        | .append => write process line descriptor id text
        | .read =>
            match openInput process text with
            | .ok bytes => (if descriptor = 0 then { process with input := bytes } else process, true)
            | .error cause =>
                (process.complainAt line ("cannot open " ++ text ++ ": " ++ reason "No such file" cause),
                  false)

def applyAll (next : Level) : List Redirection → Process → Process × Bool
  | [], process => (process, true)
  | redirection :: rest, process =>
      match apply next redirection process with
      | (process, true) => applyAll next rest process
      | (process, false) => (process, false)

def descriptorOf : Redirection → Nat
  | .mk _ descriptor _ _ => descriptor

/-- Takes redirections back: the descriptors they named lead where they led before. -/
def restore (redirections : List Redirection) (before process : Process) : Process :=
  let named := redirections.map descriptorOf
  { process with
    channels :=
      before.channels.filter (fun entry => named.contains entry.1) ++
        process.channels.filter (fun entry => !named.contains entry.1)
    input := if named.contains 0 then before.input else process.input }

/-- Does something under redirections; when one of them fails, `refused` follows instead. -/
def within (next : Level) (redirections : List Redirection)
    (refused act : Process → Process) (process : Process) : Process :=
  let (ready, made) := applyAll next redirections process
  let after :=
    if made then act ready
    else if ready.isOnward then refused (ready.withStatus 2)
    else ready
  restore redirections process after

end Groundwork.Rehearsal.Redirected
