import Groundwork.Json.Printer
import Groundwork.Json.Reader
import Groundwork.Store.Directories

namespace Groundwork.Staging

/-! Files that hold one JSON object of variables. -/

/-- The variables of a file; a missing file holds none. -/
def storedVariables (file : String) : Act Store (Table Json.Value) := do
  if !(← Act.read (Store.isPresent · file)) then
    return []
  match Json.read (← Act.look (Store.readText file)) with
  | none => throw (.json "malformed text")
  | some (.object members) => return members
  | some _ => throw (.validation (file ++ " does not hold a JSON object"))

def variablesText (members : Table Json.Value) : String :=
  (Json.Value.object members).pretty

/-- Writes values over those of a file; what they do not name stays. -/
def updateVariables (file : String) (values : Table Json.Value) : Act Store Unit := do
  let stored ← storedVariables file
  Act.log .debug ("Updating " ++ file ++ ": " ++ ", ".intercalate (Table.keys values))
  Store.makeDirectories ((Path.parent? file).getD "")
  Act.change (Store.writeText (variablesText (Table.merge stored values)) file)

end Groundwork.Staging
