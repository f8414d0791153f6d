import Groundwork.Git.Clone
import Groundwork.Rehearsal.Repository

namespace Groundwork.Rehearsal

/-! Clones of repositories that lie in the same store.  No other repository can be reached. -/

namespace Cloning

def fileScheme : List Char := "file://".toList

/-- The path that an address names, if it names one: a path that starts with a slash or a dot, or a
file address. -/
def localPath? (url : String) : Option String :=
  let letters := url.toList
  if fileScheme.isPrefixOf letters then
    let rest := letters.drop fileScheme.length
    let place := if "localhost/".toList.isPrefixOf rest then rest.drop 9 else rest
    if place.head? = some '/' then some (String.ofList place) else none
  else if Git.isLocal url then some url
  else none

def sourceAt? (store : Store) (url : String) : Option Repository :=
  match localPath? url with
  | some path => repositoryAt? store path
  | none => none

/-- The clone of one branch.  It knows that branch of the remote, and whether the remote has it checked
out. -/
def branchClone? (source : Repository) (name : String) : Option (Repository × Branch) :=
  match source.branch? name with
  | none => none
  | some branch =>
      let tracked := if source.head = name then ["HEAD", name] else [name]
      some (⟨name, [branch], tracked.map (fun name => remoteName ++ "/" ++ name)⟩, branch)

/-- The directory that a clone goes to, which must be empty or missing, and the store that has it; tells
whether it was made for the clone. -/
def claim (destination : String) (store : Store) : Except String (Location × Bool) × Store :=
  match store.locateName destination, store.locate true destination with
  | .ok (.taken _ (.link _)), .ok (.vacant _) => (.error "the destination is a dead link", store)
  | _, .ok (.taken place (.directory _)) =>
      if store.isEmptyDirectory place then (.ok (place, false), store)
      else (.error "the destination is not empty", store)
  | _, .ok (.taken ..) => (.error "the destination is not a directory", store)
  | _, _ =>
      let made := Store.makeDirectories destination store
      match made.value, made.state.entryAt true destination with
      | .ok _, .ok (place, _) => (.ok (place, true), made.state)
      | _, _ => (.error "the destination cannot be made", made.state)

end Cloning

/-- Clones one branch of a repository.  When that fails, a directory made for it goes again. -/
def clones : Git.Cloner := fun fetch store =>
  match Cloning.claim fetch.destination store with
  | (.error message, left) => (.error message, left)
  | (.ok (place, isNew), claimed) =>
      match (Cloning.sourceAt? claimed fetch.url).bind (Cloning.branchClone? · fetch.branch) with
      | none => (.error "nothing to clone", if isNew then claimed.dropTree place else claimed)
      | some (clone, branch) =>
          (.ok (), Repository.putFiles (clone.write place claimed) place branch.files)

end Groundwork.Rehearsal
