import Groundwork.Proofs.Act
import Groundwork.Resource.Guard
import Groundwork.Store.Directories

namespace Groundwork

/-! What the operations of a step do under any law. -/

open Act

universe u

namespace Store

variable {law : Law Store}

theorem makeOrFind_obeys (fails : ∀ cause, law.fails (.io cause)) (free : law.IsFree) (path : String) :
    Obeys law (makeFrom.makeOrFind path) := by
  intro store
  unfold makeFrom.makeOrFind
  split
  · exact ⟨nofun, free _ _, List.forall_mem_nil _⟩
  · split
    · exact Obeys.pure () store
    · exact Obeys.throw (fails _) store

theorem makeFrom_obeys (fails : ∀ cause, law.fails (.io cause)) (free : law.IsFree)
    (paths : List String) : Obeys law (makeFrom paths) := by
  induction paths with
  | nil => exact .pure ()
  | cons path outer ih =>
      intro store
      unfold makeFrom
      split
      · exact Obeys.pure () store
      · split
        · exact ⟨nofun, free _ _, List.forall_mem_nil _⟩
        · split
          · exact ih.andThen (fun _ => makeOrFind_obeys fails free path) store
          · split
            · exact Obeys.pure () store
            · exact Obeys.throw (fails _) store

theorem makeDirectories_obeys (fails : ∀ cause, law.fails (.io cause)) (free : law.IsFree)
    (path : String) : Obeys law (makeDirectories path) :=
  makeFrom_obeys fails free _

end Store

namespace Command

variable {law : Law Machine} {command : Command} {host : Host}

theorem run_obeys (starts : ∀ patience, Obeys law (command.start host patience))
    (fails : ∀ failure, failure.isOfChild = true → law.fails failure) (voices : ∀ note, law.voices note)
    (limit : Option Duration) : Obeys law (command.run host limit) := by
  unfold run
  refine .bind (.note (voices _)) fun _ => .bind (starts _) fun finished =>
    .bind (.note (voices _)) fun _ => .bind (.note (voices _)) fun _ => ?_
  split
  · exact .throw (fails _ rfl)
  · exact .throw (fails _ rfl)
  · split
    · exact .pure _
    · exact .throw (fails _ rfl)

/-- Capturing what a command prints does not listen for an interrupt. -/
theorem capture_obeys (starts : Obeys law (command.start host ⟨none, false⟩))
    (fails : ∀ failure, (!failure.isFatal) = true → law.fails failure)
    (logs : ∀ level text, law.voices (.logged level text)) : Obeys law (command.capture host) := by
  unfold capture
  refine .bind (.log (logs _ _)) fun _ => .bind starts fun finished => ?_
  dsimp only
  split
  · refine .bind (.throw (fails _ rfl)) fun _ => ?_
    split
    · exact .bind (.log (logs _ _)) fun _ => .pure _
    · exact .throw (fails _ rfl)
  · split
    · exact .bind (.log (logs _ _)) fun _ => .pure _
    · exact .throw (fails _ rfl)

end Command

namespace Guard

/-- That nothing can be listed is no failure: only creating can fail. -/
theorem ensure_obeys {σ : Type u} {law : Law σ} {listing : Act σ (List String)} {create : Act σ Unit}
    (lists : Obeys law.caught listing) (creates : Obeys law create)
    (logs : ∀ level text, law.voices (.logged level text)) (name : String) :
    Obeys law (ensure listing name create) := by
  have listed : Obeys law (isListed listing name) := by
    intro state
    obtain ⟨-, leads, voices⟩ := lists state
    unfold isListed
    dsimp only
    split
    · exact ⟨nofun, leads, voices⟩
    · exact ⟨nofun, leads, List.forall_mem_append.mpr ⟨voices, List.forall_mem_singleton.mpr (logs _ _)⟩⟩
  refine listed.andThen fun isThere => ?_
  split
  · exact (Obeys.log (logs _ _)).andThen fun _ => .pure _
  · exact (Obeys.log (logs _ _)).andThen fun _ => creates.andThen fun _ => .pure _

end Guard

end Groundwork
