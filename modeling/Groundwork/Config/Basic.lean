import Groundwork.Act
import Groundwork.Path
import Groundwork.Task.Encoding
import Groundwork.Text.Quoted
import Groundwork.Toml.Document
import Groundwork.Vars

namespace Groundwork

/-! The operator's configuration: a file, overrides from the environment, and what steps see of it. -/

namespace Config

def countLimit : Nat := Nat.pow 2 32

def secondsLimit : Nat := Nat.pow 2 64

end Config

structure Config where
  branch : Option String := none
  image : Option String := none
  masterCount : Option (Fin Config.countLimit) := none
  stagingDirectory : Option String := none
  taskfile : Option String := none
  stepTimeoutSeconds : Option (Fin Config.secondsLimit) := none
  vars : Vars := .empty
  deriving DecidableEq, Repr

namespace Config

def defaultBranch : String := "master"

def defaultMasterCount : Nat := 3

/-- The installer supports no more control-plane nodes. -/
def maxMasterCount : Nat := 3

def defaultStagingDirectory : String := "build"

namespace Name

def branch : String := "BMI_BRANCH"
def image : String := "IMAGE"
def masterCount : String := "NUM_MASTERS"
def stagingOverride : String := "BMINFRA_STAGING_DIR"
def stepTimeout : String := "BMINFRA_STEP_TIMEOUT"

/-- The variable under which steps see the staging directory. -/
def staging : String := "STAGING_DIR"

end Name

def encodeCount {limit : Nat} : Option (Fin limit) → Json.Value
  | some count => .ofNat count
  | none => .null

def encode (config : Config) : Json.Value :=
  .ofMembers
    [("branch", .ofOption config.branch), ("image", .ofOption config.image),
      ("master_count", encodeCount config.masterCount),
      ("staging_dir", .ofOption config.stagingDirectory), ("taskfile", .ofOption config.taskfile),
      ("step_timeout_secs", encodeCount config.stepTimeoutSeconds),
      ("vars", .ofTable config.vars.entries)]

/-- Null counts as missing. -/
def countBelow? (limit : Nat) : Json.Value → Option (Option (Fin limit))
  | .null => some none
  | .integer (.ofNat count) => if small : count < limit then some (some ⟨count, small⟩) else none
  | _ => none

def decode? (members : List (String × Json.Value)) : Option Config := do
  let text (key : String) := Field.withDefault? none Field.optional? key members
  let branch ← text "branch"
  let image ← text "image"
  let masterCount ← Field.withDefault? none (countBelow? countLimit) "master_count" members
  let stagingDirectory ← text "staging_dir"
  let taskfile ← text "taskfile"
  let seconds ← Field.withDefault? none (countBelow? secondsLimit) "step_timeout_secs" members
  let vars ← Field.withDefault? .empty Field.vars? "vars" members
  return ⟨branch, image, masterCount, stagingDirectory, taskfile, seconds, vars⟩

def parse (text : String) : Except Failure Config :=
  match Toml.read text with
  | none => .error (.toml "malformed document")
  | some entries =>
      match decode? (Toml.embedEntries entries) with
      | none => .error (.toml "not the shape of a configuration")
      | some config => .ok config

/-- A setting of the environment; an empty one counts as none. -/
def setting? (lookup : Environment) (name : String) : Option String :=
  lookup.nonempty name

def numberBelow? (limit : Nat) (text : String) : Option (Fin limit) :=
  Decimal.readBelow? limit (Text.trimLetters text.toList)

def overrideTexts (lookup : Environment) (config : Config) : Config :=
  { config with
    branch := (setting? lookup Name.branch).or config.branch
    image := (setting? lookup Name.image).or config.image }

def askedNumber (lookup : Environment) (name wanted : String) (limit : Nat) :
    Except Failure (Option (Fin limit)) :=
  match setting? lookup name with
  | none => .ok none
  | some text =>
      match numberBelow? limit text with
      | some number => .ok (some number)
      | none => .error (.config (name ++ " must be " ++ wanted ++ ", got '" ++ text ++ "'"))

def overrideMasterCount (lookup : Environment) (config : Config) : Except Failure Config :=
  (askedNumber lookup Name.masterCount "a number" countLimit).map fun asked =>
    { config with masterCount := asked.or config.masterCount }

def overrideStaging (lookup : Environment) (config : Config) : Config :=
  { config with stagingDirectory := (setting? lookup Name.stagingOverride).or config.stagingDirectory }

def overrideTimeout (lookup : Environment) (config : Config) : Except Failure Config :=
  (askedNumber lookup Name.stepTimeout "seconds" secondsLimit).map fun asked =>
    { config with stepTimeoutSeconds := asked.or config.stepTimeoutSeconds }

/-- Applies the overrides in order; those made before a bad one stay. -/
def applyOverrides (lookup : Environment) (config : Config) : Config × Option Failure :=
  let config := overrideTexts lookup config
  match overrideMasterCount lookup config with
  | .error failure => (config, some failure)
  | .ok config =>
      let config := overrideStaging lookup config
      match overrideTimeout lookup config with
      | .error failure => (config, some failure)
      | .ok config => (config, none)

def effectiveBranch (config : Config) : String :=
  config.branch.getD defaultBranch

def effectiveImage (config : Config) : String :=
  config.image.getD ""

def requestedMasters (config : Config) : Nat :=
  (config.masterCount.map Fin.val).getD defaultMasterCount

/-- The master count that was asked for, brought down to the supported one. -/
def effectiveMasterCount (config : Config) : Except Failure Nat :=
  if config.requestedMasters = 0 then .error (.config "master count must be at least 1")
  else .ok (min config.requestedMasters maxMasterCount)

/-- Said whenever a count is brought down. -/
def masterCountNotes (config : Config) : List Note :=
  if maxMasterCount < config.requestedMasters then
    [.logged .warn ("master count " ++ toString config.requestedMasters ++
      " exceeds the supported maximum, using " ++ toString maxMasterCount)]
  else []

/-- A relative staging directory starts at the working directory. -/
def staging (config : Config) (home : Option String) (workDirectory : String) : String :=
  Path.join workDirectory
    (Path.expandHome home (config.stagingDirectory.getD defaultStagingDirectory))

def taskfilePath (config : Config) (home : Option String) : Option String :=
  config.taskfile.map (Path.expandHome home)

/-- No limit and a limit of zero seconds are the same. -/
def stepTimeout (config : Config) : Option Duration :=
  match config.stepTimeoutSeconds with
  | some seconds => if 0 < seconds.val then some (.ofSeconds seconds) else none
  | none => none

/-- The variables that every step sees, before the defaults of the taskfile. -/
def toVars (config : Config) (home : Option String) (workDirectory : String) : Except Failure Vars := do
  let count ← config.effectiveMasterCount
  let standard := Vars.ofList
    [(Name.branch, config.effectiveBranch), (Name.image, config.effectiveImage),
      (Name.masterCount, toString count), (Name.staging, config.staging home workDirectory)]
  return standard.setAll config.vars.entries

def directoryName : String := ".bminfra"

def directory? (home : Option String) : Except Failure String :=
  match home with
  | some home => .ok (Path.join home directoryName)
  | none => .error .noHome

def path? (home : Option String) : Except Failure String := do
  let directory ← directory? home
  return Path.join directory "bminfra.toml"

def shownText (text : Option String) : String :=
  Text.shownOption (text.map Text.quoted)

def loadedNote (config : Config) : Note :=
  .logged .debug ("Config loaded: branch=" ++ shownText config.branch ++ ", image=" ++
    shownText config.image ++ ", master_count=" ++
    Text.shownOption (config.masterCount.map toString) ++ ", staging_dir=" ++
    shownText config.stagingDirectory)

end Config

end Groundwork
