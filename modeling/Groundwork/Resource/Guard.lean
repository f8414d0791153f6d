import Groundwork.Act

namespace Groundwork.Guard

/-! Creating a named resource only if it is not there.

What is there is asked anew each time; nothing is remembered.  When asking fails the resource counts
as missing.  Nothing keeps two runs from creating the same resource at once.
-/

inductive Outcome where
  | alreadyPresent
  | initialized
  deriving DecidableEq, Repr

variable {σ : Type u}

def isListed (listing : Act σ (List String)) (name : String) : Act σ Bool :=
  fun state =>
    let result := listing state
    match result.value with
    | .ok names => ⟨.ok (names.contains name), result.state, result.notes⟩
    | .error failure =>
        ⟨.ok false, result.state, result.notes ++
          [.logged .warn ("Listing resources failed (" ++ failure.message ++ "), assuming '" ++ name ++
            "' does not exist")]⟩

/-- Lists once, and creates the resource unless it was listed. -/
def ensure (listing : Act σ (List String)) (name : String) (create : Act σ Unit) : Act σ Outcome :=
  (isListed listing name).andThen fun listed =>
    if listed then
      (Act.log .info ("Resource '" ++ name ++ "' already exists, skipping creation")).andThen fun _ =>
        .done .alreadyPresent
    else
      (Act.log .info ("Resource '" ++ name ++ "' not found, creating")).andThen fun _ =>
        create.andThen fun _ => .done .initialized

end Groundwork.Guard
