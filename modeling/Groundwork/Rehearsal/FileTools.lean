import Groundwork.Rehearsal.Tool
import Groundwork.Text.Lines

namespace Groundwork.Rehearsal.FileTools

/-! Tools that look at files and directories, and change them. -/

def quoted (path : String) : String := "'" ++ path ++ "'"

def baseName (path : String) : String :=
  match (Path.parts path).getLast? with
  | some name => name
  | none => if path.isEmpty then "" else "/"

def directoryName (path : String) : String :=
  match Path.parent? path with
  | some "" => "."
  | some parent => parent
  | none => if Path.isAbsolute path then "/" else "."

/-- The path that an operand goes to: itself, or its name in a directory. -/
def target (store : Store) (operand destination : String) : String :=
  if store.isDirectory destination then Path.join destination (baseName operand) else destination

def touch : Tool := fun call =>
  call.each call.operands fun call path =>
    if call.store.isPresent path || call.has 'c' "no-create" then call.succeed
    else call.attempt ("cannot touch " ++ quoted path) (Store.appendBytes .empty path)

def removeDirectory : Tool := fun call =>
  call.each call.operands fun call path =>
    call.attempt ("failed to remove " ++ quoted path) (Store.removeDirectory path)

/-- Takes away a tree without asking whether the path still leads to it. -/
def dropTree (path : String) (store : Store) : Except IoCause Store :=
  let removed := Store.removeTree path store
  match removed.value with
  | .ok _ => .ok removed.state
  | .error (.io cause) => .error cause
  | .error _ => .error .invalid

def remove : Tool := fun call =>
  let recursive := call.has 'r' "recursive" || call.flags.contains 'R'
  let forced := call.has 'f' "force"
  if call.operands.isEmpty && !forced then call.refuse 1 "missing operand"
  else
    call.each call.operands fun call path =>
      let complaint := "cannot remove " ++ quoted path
      match call.store.entryAt false path with
      | .error cause =>
          if forced && (cause = .notFound || cause = .notDirectory) then call.succeed
          else call.refuse 1 (complaint ++ ": " ++ Call.attempt.reason cause)
      | .ok (_, .directory _) =>
          if recursive then call.attempt complaint (dropTree path)
          else if call.has 'd' "dir" then call.attempt complaint (Store.removeDirectory path)
          else call.refuse 1 (complaint ++ ": Is a directory")
      | .ok _ => call.attempt complaint (Store.removeFile path)

/-- Copies a tree with its links to a path where nothing, or a directory, is. -/
def copyTree (source destination : String) (store : Store) : Except IoCause Store := do
  let (origin, entry) ← store.entryAt false source
  match entry with
  | .directory mode =>
      let made ←
        if store.isDirectory destination then pure store else store.makeDirectory mode destination
      let (place, _) ← made.entryAt true destination
      if Store.isWithin place origin then throw .invalid
      return (store.below origin).foldl (fun store (part, entry) => store.put (place ++ part) entry) made
  | .link text => store.makeLink text destination
  | _ => copyPlain source destination store
where
  copyPlain (source destination : String) (store : Store) : Except IoCause Store := do
    let (_, entry) ← store.entryAt true source
    let bytes ← store.readBytes source
    store.changeBytes (fun _ => bytes) (entry.mode &&& 0o755) destination

def copy : Tool := fun call =>
  let recursive := call.has 'r' "recursive" || call.flags.contains 'R' || call.flags.contains 'a'
  match call.operands.reverse with
  | [] => call.refuse 1 "missing file operand"
  | [only] => call.refuse 1 ("missing destination file operand after " ++ quoted only)
  | destination :: sources =>
      if 1 < sources.length && !call.store.isDirectory destination then
        call.refuse 1 ("target " ++ quoted destination ++ ": No such file or directory")
      else
        call.each sources.reverse fun call source =>
          let path := target call.store source destination
          match call.store.entryAt true source with
          | .error cause =>
              call.refuse 1 ("cannot stat " ++ quoted source ++ ": " ++ Call.attempt.reason cause)
          | .ok (_, .directory _) =>
              if recursive then
                call.attempt ("cannot create directory " ++ quoted path) (copyTree source path)
              else call.refuse 1 ("-r not specified; omitting directory " ++ quoted source)
          | .ok _ =>
              if call.flags.contains 'n' && call.store.isPresent path then call.succeed
              else if call.store.entry? source = call.store.entry? path && samePlace call.store source path then
                call.refuse 1 (quoted source ++ " and " ++ quoted path ++ " are the same file")
              else
                call.attempt ("cannot create regular file " ++ quoted path)
                  (copyTree.copyPlain source path)
where
  samePlace (store : Store) (path other : String) : Bool :=
    match store.entryAt true path, store.entryAt true other with
    | .ok (place, _), .ok (otherPlace, _) => place == otherPlace
    | _, _ => false

def move : Tool := fun call =>
  match call.operands.reverse with
  | [] => call.refuse 1 "missing file operand"
  | [only] => call.refuse 1 ("missing destination file operand after " ++ quoted only)
  | destination :: sources =>
      call.each sources.reverse fun call source =>
        let path := target call.store source destination
        match call.store.entryAt false source with
        | .error cause =>
            call.refuse 1 ("cannot stat " ++ quoted source ++ ": " ++ Call.attempt.reason cause)
        | .ok _ =>
            if call.flags.contains 'n' && call.store.isPresent path then call.succeed
            else
              call.attempt ("cannot move " ++ quoted source ++ " to " ++ quoted path)
                (Store.rename source path)

def link : Tool := fun call =>
  let (text, path) := match call.operands with
    | [text] => (text, baseName text)
    | text :: path :: _ =>
        (text, if call.flags.contains 'n' then path else target call.store text path)
    | [] => ("", "")
  if call.operands.isEmpty then call.refuse 1 "missing file operand"
  else
    let store := if call.has 'f' "force" then
        match call.store.removeFile path with
        | .ok store => store
        | .error _ => call.store
      else call.store
    let call := { call with store := store }
    if call.has 's' "symbolic" then
      call.attempt ("failed to create symbolic link " ++ quoted path) (Store.makeLink text path)
    else
      call.attempt ("failed to create hard link " ++ quoted path) fun store => do
        let (_, entry) ← store.entryAt false text
        match ← store.locateName path with
        | .taken .. => throw .alreadyExists
        | .vacant place => return store.put place entry

/-- The permission bits of some letters, for everyone. -/
def permissionBits (letters : List Char) : Nat :=
  letters.foldl
    (fun bits letter =>
      bits ||| (match letter with
        | 'r' => 0o444
        | 'w' => 0o222
        | 'x' => 0o111
        | _ => 0))
    0

def whoBits (letters : List Char) : Nat :=
  letters.foldl
    (fun bits letter =>
      bits ||| (match letter with
        | 'u' => 0o700
        | 'g' => 0o070
        | 'o' => 0o007
        | 'a' => 0o777
        | _ => 0))
    0

/-- One clause of a symbolic mode.  Without letters for whom, the write bits of others stay out. -/
def applyClause (clause : List Char) (mode : Nat) : Option Nat :=
  let who := clause.takeWhile ("ugoa".toList.contains ·)
  match clause.drop who.length with
  | sign :: letters =>
      if !letters.all ("rwxX".toList.contains ·) then none
      else
        let mask := if who.isEmpty then 0o755 else whoBits who
        let letters := letters.map fun letter => if letter = 'X' then 'x' else letter
        let bits := permissionBits letters &&& mask
        let clear (bits : Nat) : Nat := mode &&& (0o7777 ^^^ bits)
        match sign with
        | '+' => some (mode ||| bits)
        | '-' => some (clear bits)
        | '=' => some (clear (if who.isEmpty then 0o777 else whoBits who) ||| bits)
        | _ => none
  | [] => none

def readMode (text : String) (mode : Nat) : Option Nat :=
  let letters := text.toList
  if !letters.isEmpty && letters.all (fun letter => '0' ≤ letter && letter ≤ '7') then
    some (letters.foldl (fun value digit => 8 * value + (digit.toNat - '0'.toNat)) 0)
  else
    (Text.splitLetters ',' letters).foldl (fun mode clause => mode.bind (applyClause clause)) (some mode)

/-- A mode may begin with a dash, so that no argument is a flag but those known by name. -/
def changeMode : Tool := fun call =>
  let rest := call.arguments.filter fun argument => argument ≠ "-R" && argument ≠ "-f" && argument ≠ "--"
  match rest with
  | [] => call.refuse 1 "missing operand"
  | text :: paths =>
      if (readMode text 0).isNone then call.refuseWithHint 1 ("invalid mode: " ++ quoted text)
      else
        call.each paths fun call path =>
          match call.store.entryAt true path with
          | .error cause =>
              call.refuse 1 ("cannot access " ++ quoted path ++ ": " ++ Call.attempt.reason cause)
          | .ok (_, entry) =>
              call.attempt ("changing permissions of " ++ quoted path)
                (Store.setMode ((readMode text entry.mode).getD entry.mode) path)

def makeDirectory : Tool := fun call =>
  let (values, rest) := Call.takeValues ['m'] call.arguments
  let call := { call with arguments := rest }
  let mode := ((values.lookup 'm').bind (readMode · Store.directoryMode)).getD Store.directoryMode
  call.each call.operands fun call path =>
    let complaint := "cannot create directory " ++ quoted path
    if call.has 'p' "parents" then
      let made := Store.makeDirectories path call.store
      match made.value with
      | .error (.io cause) =>
          { call.refuse 1 (complaint ++ ": " ++ Call.attempt.reason cause) with store := made.state }
      | _ => { call.succeed with store := made.state }
    else call.attempt complaint (Store.makeDirectory mode path)

def listedNames (call : Call) (place : Location) : List String :=
  let names := ((call.store.children place).map Prod.fst).mergeSort (· ≤ ·)
  let shown := names.filter fun name => name.toList.head? ≠ some '.'
  if call.has 'a' "all" then "." :: ".." :: names
  else if call.has 'A' "almost-all" then names
  else shown

def list : Tool := fun call =>
  let operands := if call.operands.isEmpty then ["."] else call.operands.mergeSort (· ≤ ·)
  let isDirectory (path : String) : Bool := call.store.isDirectory path && !call.has 'd' "directory"
  let missing := operands.filter fun path =>
    match call.store.entryAt false path with
    | .ok _ => false
    | .error _ => true
  let present := operands.filter (fun path => !missing.contains path)
  let files := present.filter (fun path => !isDirectory path)
  let directories := present.filter isDirectory
  let headed := 1 < operands.length
  let blocks := directories.map fun path =>
    let names := match call.store.entryAt true path with
      | .ok (place, _) => listedNames call place
      | .error _ => []
    String.join ((if headed then path ++ ":\n" else "") :: names.map (· ++ "\n"))
  let fileBlock := if files.isEmpty then [] else [String.join (files.map (· ++ "\n"))]
  let complaints := missing.map fun path =>
    let reason := match call.store.entryAt false path with
      | .error cause => Call.attempt.reason cause
      | .ok _ => ""
    "ls: cannot access " ++ quoted path ++ ": " ++ reason ++ "\n"
  { call.print ("\n".intercalate (fileBlock ++ blocks)) with
    status := if missing.isEmpty then 0 else 2
    complained := (String.join complaints).toUTF8 }

def printDirectory : Tool := fun call =>
  call.printLines [Store.pathOf call.store.current]

def printBaseName : Tool := fun call =>
  match call.operands with
  | [path] => call.printLines [baseName path]
  | path :: ending :: _ =>
      let name := baseName path
      let shorter := if name.endsWith ending && name ≠ ending then
          (name.toList.take (name.length - ending.length))
        else name.toList
      call.printLines [String.ofList shorter]
  | [] => call.refuse 1 "missing operand"

def printDirectoryName : Tool := fun call =>
  call.printLines (call.operands.map directoryName)

def readLink : Tool := fun call =>
  call.each call.operands fun call path =>
    if call.has 'f' "canonicalize" then
      match call.store.locate true path with
      | .ok spot => call.printLines [Store.pathOf spot.place]
      | .error _ => call.status 1
    else
      match call.store.entryAt false path with
      | .ok (_, .link text) => call.printLines [text]
      | _ => call.status 1

def realPath : Tool := fun call =>
  call.each call.operands fun call path =>
    match call.store.locate true path with
    | .ok spot => call.printLines [Store.pathOf spot.place]
    | .error cause => call.refuse 1 (path ++ ": " ++ Call.attempt.reason cause)

end Groundwork.Rehearsal.FileTools
