import Groundwork.Proofs.Store.Walk
import Groundwork.Staging.Removal

namespace Groundwork

namespace Store

/-! What is taken away is gone.

The store need not be well formed: the current directory may lie in what is taken away.
-/

variable {store after : Store} {top here place : Location} {steps : List String} {through : Bool}
  {links : Nat} {path : String} {spot : Spot} {entry : Entry}

/-- Every entry that is still there is as it was. -/
structure Shrinks (before after : Store) : Prop where
  current : after.current = before.current
  entry : ∀ place, after.get? place = before.get? place ∨ after.get? place = none

theorem shrinks_dropTree (store : Store) (top : Location) : Shrinks store (store.dropTree top) := by
  refine ⟨rfl, fun place => ?_⟩
  by_cases root : place = []
  · exact .inl (root ▸ rfl)
  · rw [get?_of_ne_nil root, get?_of_ne_nil root, dropTree,
      find?_filter fun place => !isWithin place top]
    split
    · exact .inl rfl
    · exact .inr rfl

theorem advance_shrinks (shrinks : Shrinks store after) {progress : Progress}
    (came : store.advance through here steps = .ok progress) :
    after.advance through here steps = .error .notFound ∨
      (∃ place, after.advance through here steps = .ok (.missing place)) ∨
      after.advance through here steps = .ok progress := by
  have walks := walks_iff.mpr came
  clear came
  -- Where an entry is gone, the walk ends at once.
  have ends {here : Location} {name : String} (looked : IsLookedUp name) (rest : List String)
      (gone : after.get? (here ++ [name]) = none) :
      after.advance through here (name :: rest) = .error .notFound ∨
        ∃ place, after.advance through here (name :: rest) = .ok (.missing place) := by
    cases rest with
    | nil => exact .inr ⟨_, walks_iff.mp (.missing looked gone)⟩
    | cons =>
        refine .inl ?_
        simp only [advance, if_neg looked.notDot, if_neg looked.notUp, if_neg looked.short, gone]
        rfl
  induction walks with
  | @here here entry found =>
      rcases shrinks.entry here with same | gone
      · exact .inr (.inr (walks_iff.mp (.here (same.trans found))))
      · exact .inl (by rw [advance, gone])
  | dot _ ih => simpa only [advance_dot_cons] using ih
  | up _ ih => simpa only [advance_up_cons] using ih
  | @missing here name looked absent =>
      have gone : after.get? (here ++ [name]) = none := by
        rcases shrinks.entry (here ++ [name]) with same | gone
        · exact same.trans absent
        · exact gone
      exact .inr (.inr (walks_iff.mp (.missing looked gone)))
  | @into here name rest _ _ looked found _ ih =>
      rcases shrinks.entry (here ++ [name]) with same | gone
      · rwa [advance_into looked (same.trans found)]
      · exact (ends looked rest gone).imp_right .inl
  | @linked here name _ rest looked found follows =>
      rcases shrinks.entry (here ++ [name]) with same | gone
      · exact .inr (.inr (walks_iff.mp (.linked looked (same.trans found) follows)))
      · exact (ends looked rest gone).imp_right .inl
  | @arrived here name _ looked found leaf stays =>
      rcases shrinks.entry (here ++ [name]) with same | gone
      · exact .inr (.inr (walks_iff.mp (.arrived looked (same.trans found) leaf stays)))
      · exact (ends looked [] gone).imp_right .inl

/-- Nothing is where a walk goes. -/
def IsGone (walked : Except IoCause Spot) : Prop :=
  walked = .error .notFound ∨ ∃ place, walked = .ok (.vacant place)

theorem follow_shrinks (shrinks : Shrinks store after)
    (leads : Leads store through links here steps spot) :
    IsGone (after.follow through links here steps) ∨
      after.follow through links here steps = .ok spot := by
  induction leads with
  | arrived came | missing came =>
      rcases advance_shrinks shrinks came with failed | ⟨place, missing⟩ | same
      · exact .inl (.inl (by rw [follow, failed]))
      · exact .inl (.inr ⟨place, by rw [follow, missing]⟩)
      · exact .inr (by rw [follow, same])
  | linked came _ ih =>
      rcases advance_shrinks shrinks came with failed | ⟨place, missing⟩ | same
      · exact .inl (.inl (by rw [follow, failed]))
      · exact .inl (.inr ⟨place, by rw [follow, missing]⟩)
      · rw [follow, same]
        exact ih

theorem get?_of_arrived
    (came : store.advance through here steps = .ok (.arrived place entry)) :
    store.get? place = some entry := by
  generalize ended : Progress.arrived place entry = progress at came
  have walks := walks_iff.mpr came
  clear came
  induction walks with
  | here found =>
      cases ended
      exact found
  | dot _ ih => exact ih ended
  | up _ ih => exact ih ended
  | into _ _ _ ih => exact ih ended
  | arrived _ found =>
      cases ended
      exact found
  | missing | linked => cases ended

theorem get?_of_leads (leads : Leads store through links here steps (.taken place entry)) :
    store.get? place = some entry := by
  generalize ended : Spot.taken place entry = spot at leads
  induction leads with
  | arrived came =>
      cases ended
      exact get?_of_arrived came
  | missing => cases ended
  | linked _ _ ih => exact ih ended

theorem isGone_dropTree (proper : place ≠ [])
    (located : store.locateName path = .ok (.taken place entry)) :
    IsGone ((store.dropTree place).locateName path) := by
  obtain ⟨accepted, leads⟩ := locateSteps_eq_ok_iff.mp located
  have unfolded : (store.dropTree place).locateName path =
      (store.dropTree place).follow false linkLimit (store.startOf path) (Path.parts path) := by
    rw [locateName, locateSteps, accepted]
    rfl
  rw [unfolded]
  rcases follow_shrinks (shrinks_dropTree store place) leads with gone | same
  · exact gone
  · have there := get?_of_leads (leads_of_follow same)
    have clear : Clear (store.dropTree place) place := clear_dropTree
    have absent := clear.get? proper []
    rw [List.append_nil] at absent
    cases there.symm.trans absent

/-- How a walk goes on when a dot follows. -/
def Progress.dotted : Progress → Except IoCause Progress
  | .missing _ => .error .notFound
  | .linked directory target rest => .ok (.linked directory target (rest ++ ["."]))
  | .arrived place entry => .ok (.arrived place entry)

theorem advance_dot (absent : ∀ place entry,
    store.advance false here steps ≠ .ok (.arrived place entry)) :
    store.advance false here (steps ++ ["."]) =
      (store.advance false here steps).bind Progress.dotted := by
  induction steps generalizing here with
  | nil =>
      cases found : store.get? here with
      | none => simp [advance, found, Except.bind]
      | some entry => simp [advance, found] at absent
  | cons name rest ih =>
      have longer : (rest ++ ["."]).isEmpty = false := by simp
      rw [List.cons_append, advance, advance]
      unfold advance at absent
      split
      · next dot =>
          rw [if_pos dot] at absent
          exact ih absent
      next notDot =>
      rw [if_neg notDot] at absent
      split
      · next up =>
          rw [if_pos up] at absent
          exact ih absent
      next notUp =>
      rw [if_neg notUp] at absent
      split
      · rfl
      next short =>
      rw [if_neg short] at absent
      simp only [longer, Bool.false_eq_true, ↓reduceIte, Bool.false_and] at absent ⊢
      split
      · split <;> rfl
      · next found => exact ih (by simpa only [found] using absent)
      · next target found =>
          split
          · next last =>
              simp only [found, last, ↓reduceIte] at absent
              exact absurd rfl (absent _ _)
          · rfl
      · next entry notDirectory notLink found =>
          split
          · next last =>
              cases entry with
              | directory mode => exact absurd rfl (notDirectory mode)
              | link target => exact absurd rfl (notLink target)
              | file | sink =>
                  simp only [found, last, ↓reduceIte] at absent
                  exact absurd rfl (absent _ _)
          · rfl

theorem not_arrived_of_isGone (gone : IsGone (store.follow through links here steps)) (place : Location)
    (entry : Entry) : store.advance through here steps ≠ .ok (.arrived place entry) := by
  intro arrived
  rw [follow, arrived] at gone
  rcases gone with failed | ⟨_, vacant⟩
  · cases failed
  · cases vacant

theorem isGone_dot (gone : IsGone (store.follow false links here steps)) :
    IsGone (store.follow false links here (steps ++ ["."])) := by
  induction links generalizing here steps with
  | zero =>
      have dotted := advance_dot (not_arrived_of_isGone gone)
      unfold follow at gone ⊢
      rw [dotted]
      cases came : store.advance false here steps with
      | error cause => rwa [came] at gone
      | ok found =>
          cases found with
          | arrived place entry => rwa [came] at gone
          | missing place => exact .inl rfl
          | linked directory target rest => rwa [came] at gone
  | succ links ih =>
      have dotted := advance_dot (not_arrived_of_isGone gone)
      unfold follow at gone ⊢
      rw [dotted]
      cases came : store.advance false here steps with
      | error cause => rwa [came] at gone
      | ok found =>
          cases found with
          | arrived place entry => rwa [came] at gone
          | missing place => exact .inl rfl
          | linked directory target rest =>
              rw [came] at gone
              have later := ih gone
              rwa [List.append_assoc] at later

theorem entryAt_of_isGone (gone : IsGone (store.locateName path)) :
    store.entryAt false path = .error .notFound := by
  have whole : IsGone (store.locate false path) := by
    unfold locateName locateSteps at gone
    unfold locate locateSteps
    split at gone
    · exact gone
    · rw [stepsOf]
      split
      · exact isGone_dot gone
      · rwa [List.append_nil]
  unfold entryAt
  rcases whole with failed | ⟨place, vacant⟩
  · rw [failed]
  · rw [vacant]

theorem entryAt_of_removeFile (done : store.removeFile path = .ok after) :
    after.entryAt false path = .error .notFound := by
  unfold removeFile at done
  split at done
  · cases done
  · cases done
  · cases done
  · next place entry notDirectory located =>
      split at done <;> cases done
      refine entryAt_of_isGone (isGone_dropTree ?_ located)
      rintro rfl
      obtain ⟨_, leads⟩ := locateSteps_eq_ok_iff.mp located
      cases get?_of_leads leads
      exact notDirectory _ rfl

theorem entryAt_of_removeDirectory (done : store.removeDirectory path = .ok after) :
    after.entryAt false path = .error .notFound := by
  unfold removeDirectory at done
  split at done
  · cases done
  · cases done
  · next place mode located =>
      split at done
      · cases done
      · cases done
      · split at done
        · cases done
        next inside =>
        split at done <;> cases done
        exact entryAt_of_isGone (isGone_dropTree inside located)
  · cases done

theorem entryAt_of_removeDirectory_error (failed : store.removeDirectory path = .error .notFound) :
    store.entryAt false path = .error .notFound := by
  refine entryAt_of_isGone ?_
  unfold removeDirectory at failed
  split at failed
  · next cause located =>
      cases failed
      exact .inl located
  · next place located => exact .inr ⟨place, located⟩
  · split at failed
    · cases failed
    · cases failed
    · split at failed
      · cases failed
      · split at failed <;> cases failed
  · cases failed

theorem entryAt_of_removeTree (done : (removeTree path store).value = .ok ()) :
    (removeTree path store).state.entryAt false path = .error .notFound := by
  unfold removeTree at done ⊢
  cases found : store.entryAt true path with
  | error cause =>
      rw [found] at done
      cases done
  | ok located =>
      obtain ⟨place, entry⟩ := located
      rw [found] at done
      cases entry with
      | file | link | sink => cases done
      | directory mode =>
          cases removal : (store.dropContent place).removeDirectory path with
          | ok removed =>
              simp only [removal]
              exact entryAt_of_removeDirectory removal
          | error cause =>
              simp only [removal] at done ⊢
              split at done
              · next missing =>
                  rw [if_pos missing]
                  exact entryAt_of_removeDirectory_error (missing ▸ removal)
              · cases done

end Store

namespace Staging

variable {store : Store} {path : String}

theorem removePath_of_absent (absent : store.entryAt false path = .error .notFound) :
    (removePath path store).value = .ok false ∧ (removePath path store).state = store := by
  simp [removePath, bind, Act.andThen, Act.read, absent, pure, Act.done]

theorem entryAt_of_removePath {removed : Bool} (done : (removePath path store).value = .ok removed) :
    (removePath path store).state.entryAt false path = .error .notFound := by
  cases found : store.entryAt false path with
  | error cause =>
      by_cases missing : cause = .notFound
      · subst missing
        rwa [(removePath_of_absent found).2]
      · simp [removePath, bind, Act.andThen, Act.read, found, missing, throw, throwThe,
          MonadExceptOf.throw, Act.fail] at done
  | ok located =>
      obtain ⟨place, entry⟩ := located
      cases entry with
      | directory mode =>
          cases outcome : (Store.removeTree path store).value with
          | error failure =>
              simp [removePath, bind, Act.andThen, Act.read, found, outcome] at done
          | ok =>
              have state : (removePath path store).state = (Store.removeTree path store).state := by
                simp [removePath, bind, Act.andThen, Act.read, found, outcome, Act.log, Act.note,
                  pure, Act.done]
              rw [state]
              exact Store.entryAt_of_removeTree outcome
      | file | link | sink =>
          cases outcome : store.removeFile path with
          | error cause =>
              simp [removePath, bind, Act.andThen, Act.read, found, Act.change, outcome] at done
          | ok after =>
              have state : (removePath path store).state = after := by
                simp [removePath, bind, Act.andThen, Act.read, found, Act.change, outcome, Act.log,
                  Act.note, pure, Act.done]
              rw [state]
              exact Store.entryAt_of_removeFile outcome

theorem removePath_again {removed : Bool} (done : (removePath path store).value = .ok removed) :
    (removePath path (removePath path store).state).value = .ok false ∧
      (removePath path (removePath path store).state).state = (removePath path store).state :=
  removePath_of_absent (entryAt_of_removePath done)

end Staging

end Groundwork
