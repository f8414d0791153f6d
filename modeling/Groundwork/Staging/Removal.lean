import Groundwork.Store.Directories

namespace Groundwork.Staging

/-! Removing what a run has left behind. -/

/-- Removes a file, a link or a directory with all it holds, and tells whether there was one. -/
def removePath (path : String) : Act Store Bool := do
  match ← Act.read (Store.entryAt · false path) with
  | .error cause => if cause = .notFound then return false else throw (.io cause)
  | .ok (_, .directory _) => Store.removeTree path
  | .ok _ => Act.change (Store.removeFile path)
  Act.log .info ("Removed " ++ path)
  return true

end Groundwork.Staging
