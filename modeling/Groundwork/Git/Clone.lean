import Groundwork.Act
import Groundwork.Store.Basic

namespace Groundwork.Git

/-! Cloning one branch of a repository. -/

/-- What a clone asks for. -/
structure Fetch where
  url : String
  branch : String
  /-- The references that are fetched, and what they are called in the clone. -/
  refspec : String
  /-- How many commits are fetched; all of them where this is not said. -/
  depth : Option Nat
  destination : String

/-- What carries out clones: it ends well or says why not, and leaves a store either way. -/
abbrev Cloner := Fetch → Store → Except String Unit × Store

def localLeads : List String := ["file://", "/", "."]

def isLocal (url : String) : Bool :=
  localLeads.any fun lead => lead.toList.isPrefixOf url.toList

namespace Fetch

/-- Nothing but the branch is fetched, and from afar no more than its last commit. -/
def ofBranch (url branch destination : String) : Fetch where
  url := url
  branch := branch
  refspec := "+refs/heads/" ++ branch ++ ":refs/remotes/origin/" ++ branch
  depth := if isLocal url then none else some 1
  destination := destination

def perform (cloner : Cloner) (fetch : Fetch) : Act Store Unit :=
  fun store =>
    let (ended, left) := cloner fetch store
    ⟨ended.mapError .git, left, []⟩

end Fetch

/-- What is said before a clone is begun. -/
def cloneNote (url branch destination : String) : Note :=
  .logged .debug ("GitOps::clone_branch url=" ++ url ++ " branch=" ++ branch ++ " dest=" ++
    destination)

def cloneBranch (cloner : Cloner) (url branch destination : String) : Act Store Unit := do
  Act.note (cloneNote url branch destination)
  (Fetch.ofBranch url branch destination).perform cloner
  Act.log .debug ("Cloned " ++ url ++ " into " ++ destination)

end Groundwork.Git
