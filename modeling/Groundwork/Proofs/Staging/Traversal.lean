import Groundwork.Proofs.Act
import Groundwork.Proofs.Store.Walk
import Groundwork.Staging.Copy

namespace Groundwork

/-! The walk of a copy through its template. -/

namespace Store

variable {store : Store} {directory : Location} {name : String} {entry : Entry}

theorem mem_children (found : store.get? (directory ++ [name]) = some entry) :
    (name, entry) ∈ store.children directory := by
  rw [← find?_below (by simp)] at found
  exact List.mem_filterMap.mpr ⟨([name], entry), mem_of_find? found, rfl⟩

end Store

namespace Act

universe u v w

variable {σ : Type u} {α β : Type v} {element : Type w} {invariant : σ → Prop}

/-- What holds before holds after, whether the operation fails or not. -/
def Maintains (invariant : σ → Prop) (act : Act σ α) : Prop :=
  Obeys (.maintaining invariant) act

theorem maintains_iff {act : Act σ α} :
    Maintains invariant act ↔ ∀ state, invariant state → invariant (act state).state :=
  ⟨fun maintains state => (maintains state).leads,
    fun kept state => ⟨fun _ _ => trivial, kept state, fun _ _ => trivial⟩⟩

/-- One element at which every state of the way fails ends the whole. -/
theorem forM_fails {step : element → Act σ PUnit} {elements : List element}
    (each : ∀ one ∈ elements, Maintains invariant (step one)) {one : element}
    (member : one ∈ elements)
    (fails : ∀ state, invariant state → ∃ failure, (step one state).value = .error failure)
    {state : σ} (holds : invariant state) :
    ∃ failure, (elements.forM step state).value = .error failure := by
  induction elements generalizing state with
  | nil => exact absurd member List.not_mem_nil
  | cons first rest ih =>
      change ∃ failure, ((step first).andThen (fun _ => rest.forM step) state).value = .error failure
      have between := (each first List.mem_cons_self state).leads holds
      rw [andThen]
      cases value : (step first state).value with
      | error failure => exact ⟨failure, rfl⟩
      | ok result =>
          rcases List.mem_cons.mp member with rfl | later
          · obtain ⟨failure, failed⟩ := fails state holds
            rw [value] at failed
            contradiction
          · exact ih (fun other listed => each other (List.mem_cons_of_mem _ listed)) later between

end Act

namespace Staging

open Store

variable {store after : Store} {place : Location} {copy entry : Entry}

theorem settle_eq_ok (done : settle store place copy = .ok after) :
    (after = store ∧ IsDirectoryAt store place) ∨
      (after = store.put place copy ∧ ¬ IsDirectoryAt store place) := by
  unfold settle at done
  rw [isDirectoryAt_iff]
  cases found : store.get? place with
  | none =>
      rw [found] at done
      cases done
      exact .inr ⟨rfl, by simp⟩
  | some present =>
      rw [found] at done
      cases present with
      | directory mode =>
          dsimp only at done
          split at done <;> cases done
          exact .inl ⟨rfl, mode, rfl⟩
      | file | link | sink =>
          dsimp only at done
          split at done <;> cases done
          exact .inr ⟨rfl, by simp⟩

theorem settle_of_absent (absent : store.get? place = none) :
    settle store place copy = .ok (store.put place copy) := by
  rw [settle, absent]

namespace Copying

variable (copying : Copying) {part : Location} {growth : Growth} {invariant : Store → Prop}

/-- The system takes the paths of the part and of its copy, and the part can be copied. -/
structure Takes (copying : Copying) (part : Location) (entry : Entry) : Prop where
  source : refusedPath (pathBelow copying.source part) = none
  target : refusedPath (pathBelow copying.path part) = none
  copied : ∃ copy, copied copying.before copying.source part entry = .ok copy

theorem allow_eq_ok_iff {path : String} {nothing : Unit} :
    allow path = .ok nothing ↔ refusedPath path = none := by
  unfold allow
  cases refusedPath path <;> simp

theorem copyPart_eq_ok_iff :
    copying.copyPart part entry store = .ok after ↔
      refusedPath (pathBelow copying.source part) = none ∧
      refusedPath (pathBelow copying.path part) = none ∧
      ∃ copy, copied copying.before copying.source part entry = .ok copy ∧
        settle store (copying.growing ++ part) copy = .ok after := by
  cases entry with
  | directory mode =>
      simp only [copyPart, Entry.isDirectory, if_true, bind_eq_ok, mapError_eq_ok, allow_eq_ok_iff,
        copied, pure, Except.pure, Except.ok.injEq, exists_const]
      constructor
      · rintro ⟨made, ⟨target, settled⟩, source, rfl⟩
        exact ⟨source, target, _, rfl, settled⟩
      · rintro ⟨source, target, _, rfl, settled⟩
        exact ⟨after, ⟨target, settled⟩, source, rfl⟩
  | file | link | sink =>
      simp only [copyPart, Entry.isDirectory, Bool.false_eq_true, if_false, bind_eq_ok,
        mapError_eq_ok, allow_eq_ok_iff, exists_const]
      constructor
      · rintro ⟨source, copy, done, target, settled⟩
        exact ⟨source, target, copy, done, settled⟩
      · rintro ⟨source, target, copy, done, settled⟩
        exact ⟨source, copy, done, target, settled⟩

theorem visit_cases (part : Location) (entry : Entry) (growth : Growth) :
    (∃ failure, copying.visit part entry growth =
      ⟨.error failure, ⟨growth.store, growth.visited ++ [part]⟩, []⟩) ∨
    ∃ after, copying.copyPart part entry growth.store = .ok after ∧
      copying.visit part entry growth = ⟨.ok (), ⟨after, growth.visited ++ [part]⟩, []⟩ := by
  unfold visit
  cases copying.copyPart part entry growth.store with
  | error failure => exact .inl ⟨failure, rfl⟩
  | ok after => exact .inr ⟨after, rfl, rfl⟩

/-- Copied parts never take the place of a directory. -/
def Outlasts (copying : Copying) (invariant : Store → Prop) : Prop :=
  ∀ store part copy, part ≠ [] → ¬ IsDirectoryAt store (copying.growing ++ part) →
    invariant store → invariant (store.put (copying.growing ++ part) copy)

theorem visit_maintains (outlasts : copying.Outlasts invariant) (proper : part ≠ []) :
    Act.Maintains (fun growth => invariant growth.store) (copying.visit part entry) := by
  refine Act.maintains_iff.mpr fun growth holds => ?_
  rcases copying.visit_cases part entry growth with ⟨failure, failed⟩ | ⟨after, done, visited⟩
  · rwa [failed]
  · obtain ⟨-, -, copy, -, settled⟩ := copying.copyPart_eq_ok_iff.mp done
    rw [visited]
    rcases settle_eq_ok settled with ⟨rfl, -⟩ | ⟨rfl, free⟩
    · exact holds
    · exact outlasts _ part copy proper free holds

/-- What the walk does for one entry of a directory. -/
def pass (depth : Nat) (part : Location) (child : String × Entry) : Act Growth Unit := do
  copying.visit (part ++ [child.1]) child.2
  if child.2.isDirectory then copying.walk depth (part ++ [child.1])

theorem walk_succ (depth : Nat) (part : Location) (growth : Growth) :
    copying.walk (depth + 1) part growth =
      (growth.store.children (copying.origin ++ part)).forM (copying.pass depth part) growth := rfl

theorem pass_maintains (outlasts : copying.Outlasts invariant) {depth : Nat}
    (deeper : ∀ part, Act.Maintains (fun growth => invariant growth.store) (copying.walk depth part))
    (part : Location) (child : String × Entry) :
    Act.Maintains (fun growth => invariant growth.store) (copying.pass depth part child) := by
  refine (copying.visit_maintains outlasts (by simp)).bind fun _ => ?_
  split
  · exact deeper _
  · exact .pure _

theorem walk_maintains (outlasts : copying.Outlasts invariant) (depth : Nat) (part : Location) :
    Act.Maintains (fun growth => invariant growth.store) (copying.walk depth part) := by
  induction depth generalizing part with
  | zero => exact .pure ()
  | succ depth ih =>
      exact .bind (.read _) fun children => .forM fun child _ =>
        copying.pass_maintains outlasts ih part child

theorem outlasts_directory (place : Location) :
    copying.Outlasts fun store => IsDirectoryAt store place := by
  intro store part copy proper free holds
  have different : place ≠ copying.growing ++ part := by
    rintro rfl
    exact free holds
  rwa [IsDirectoryAt, get?_put _ _ _ _ (by simp [proper]), if_neg different]

theorem outlasts_all {α : Sort*} {invariants : α → Store → Prop}
    (each : ∀ index, copying.Outlasts (invariants index)) :
    copying.Outlasts fun store => ∀ index, invariants index store :=
  fun store part copy proper free holds index => each index store part copy proper free (holds index)

theorem directory_of_copyPart {mode : Nat}
    (done : copying.copyPart part (.directory mode) store = .ok after) (proper : part ≠ []) :
    IsDirectoryAt after (copying.growing ++ part) := by
  obtain ⟨-, -, copy, made, settled⟩ := copying.copyPart_eq_ok_iff.mp done
  cases made
  rcases settle_eq_ok settled with ⟨rfl, there⟩ | ⟨rfl, -⟩
  · exact there
  · exact isDirectoryAt_iff.mpr ⟨_, get?_put_self _ _ _ (by simp [proper])⟩

theorem length_le_intercalate (part : Location) :
    part.length ≤ ("/".intercalate part).utf8ByteSize + 1 := by
  induction part with
  | nil => simp
  | cons name rest ih =>
      cases rest with
      | nil => simp
      | cons next more =>
          have slash : "/".utf8ByteSize = 1 := rfl
          rw [String.intercalate_cons_cons, String.utf8ByteSize_append, String.utf8ByteSize_append,
            List.length_cons]
          omega

theorem length_le_of_allowed {top : String} (allowed : refusedPath (pathBelow top part) = none) :
    part.length ≤ pathLimit := by
  have short := (refusedPath_eq_none_iff.mp allowed).2.2
  have longer := Path.size_le_join top ("/".intercalate part)
  have names := length_le_intercalate part
  unfold pathBelow at short
  omega

theorem length_ne_of_allowed
    (allowed : part ≠ [] → refusedPath (pathBelow copying.path part) = none) :
    part.length ≠ pathLimit + 1 := by
  intro long
  have short := length_le_of_allowed (allowed (List.ne_nil_of_length_eq_add_one long))
  omega

/-- The walk goes no deeper by itself: what lies behind the depth has no path short enough. -/
theorem walk_enough {depth : Nat} (more : Nat) (deep : part.length + depth = pathLimit + 1)
    (allowed : part ≠ [] → refusedPath (pathBelow copying.path part) = none) :
    copying.walk (depth + more) part = copying.walk depth part := by
  induction depth generalizing part with
  | zero => exact absurd deep (copying.length_ne_of_allowed allowed)
  | succ depth ih =>
      have passes : copying.pass (depth + more) part = copying.pass depth part := by
        funext child growth
        change (copying.visit _ _).andThen _ growth = (copying.visit _ _).andThen _ growth
        rw [Act.andThen, Act.andThen]
        rcases copying.visit_cases (part ++ [child.1]) child.2 growth with
          ⟨failure, failed⟩ | ⟨after, done, visited⟩
        · rw [failed]
        · have goesOn : copying.walk (depth + more) (part ++ [child.1]) =
              copying.walk depth (part ++ [child.1]) :=
            ih (by simp; omega) fun _ => (copying.copyPart_eq_ok_iff.mp done).2.1
          rw [visited, goesOn]
      funext growth
      rw [Nat.add_right_comm, walk_succ, walk_succ, passes]

/-- What the walk copies lies on its own way then: with every directory that it comes to it makes one
more, until a path is too long. -/
theorem walk_nested {inner : Location} (nested : copying.growing = copying.origin ++ inner)
    (proper : inner ≠ []) {depth : Nat} (deep : part.length + depth = pathLimit + 1)
    (allowed : part ≠ [] → refusedPath (pathBelow copying.path part) = none)
    (follows : part <+: inner ++ part)
    (directories : ∀ way, way <+: inner ++ part → IsDirectoryAt growth.store (copying.origin ++ way)) :
    ∃ failure, (copying.walk depth part growth).value = .error failure := by
  induction depth generalizing part growth with
  | zero => exact absurd deep (copying.length_ne_of_allowed allowed)
  | succ depth ih =>
      obtain ⟨rest, whole⟩ := follows
      obtain ⟨name, more, rfl⟩ : ∃ name more, rest = name :: more := by
        have lengths := congrArg List.length whole
        have positive := List.length_pos_iff.mpr proper
        simp only [List.length_append] at lengths
        exact List.exists_cons_of_length_pos (by omega)
      have next : part ++ [name] <+: inner ++ part := ⟨more, by simpa using whole⟩
      obtain ⟨mode, found⟩ := isDirectoryAt_iff.mp (directories _ next)
      rw [← List.append_assoc] at found
      have outlasts := copying.outlasts_all fun way => copying.outlasts_all
        fun (_ : way <+: inner ++ part) => copying.outlasts_directory (copying.origin ++ way)
      rw [walk_succ]
      refine Act.forM_fails
        (fun child _ => copying.pass_maintains outlasts (copying.walk_maintains outlasts depth) part child)
        (mem_children found) (fun growth directories => ?_) directories
      have kept : ∀ way, way <+: inner ++ part → IsDirectoryAt
          (copying.visit (part ++ [name]) (.directory mode) growth).state.store
            (copying.origin ++ way) :=
        (copying.visit_maintains outlasts (by simp) growth).leads directories
      change ∃ failure, ((copying.visit (part ++ [name]) (.directory mode)).andThen
        (fun _ => copying.walk depth (part ++ [name])) growth).value = .error failure
      rw [Act.andThen]
      rcases copying.visit_cases (part ++ [name]) (.directory mode) growth with
        ⟨failure, failed⟩ | ⟨after, done, visited⟩
      · exact ⟨failure, by rw [failed]⟩
      · rw [visited] at kept ⊢
        refine ih (by simp; omega) (fun _ => (copying.copyPart_eq_ok_iff.mp done).2.1) ?_ ?_
        · exact next.trans ⟨[name], by simp⟩
        · intro way within
          rw [← List.append_assoc] at within
          rcases List.prefix_concat_iff.mp within with rfl | shorter
          · rw [List.append_assoc, ← List.append_assoc, ← nested]
            exact copying.directory_of_copyPart done (by simp)
          · exact kept way shorter

end Copying

end Staging

end Groundwork
