import Groundwork.Proofs.Run.Calls

namespace Groundwork

/-! The log tag follows the steps.

A scope that is opened and closed leaves the tag as it was, however many scopes are opened and closed
inside.  A run opens one for each step and closes it on every way out, so that what happens in a step
carries the tag of the step, and all else the tag in force around the run.
-/

universe u

variable {σ : Type u}

namespace Log.Scopes

variable {scopes : Scopes} {changes inside before rest : List Change} {tag : Tag}
  {first next last number : Nat}

/-- Scopes are closed in the reverse of the order in which they were opened.  The numbers tell how many
scopes had been opened before and have been afterwards. -/
inductive Nested : Nat → List Change → Nat → Prop
  | nothing (count : Nat) : Nested count [] count
  | scope {tag : Tag} {first next last : Nat} {inside later : List Change}
      (inner : Nested (first + 1) inside next) (behind : Nested next later last) :
      Nested first (.opens tag :: (inside ++ .closes first :: later)) last

theorem after_cons (scopes : Scopes) (change : Change) (later : List Change) :
    scopes.after (change :: later) = (scopes.change change).after later := rfl

theorem after_append (scopes : Scopes) (changes later : List Change) :
    scopes.after (changes ++ later) = (scopes.after changes).after later :=
  List.foldl_append

theorem length_opens (scopes : Scopes) (tag : Tag) :
    (scopes.change (.opens tag)).held.length = scopes.held.length + 1 := by
  simp [change]

/-- Closing a scope brings back the tag from before it was opened; later scopes keep their numbers. -/
theorem change_closes {opened : Scopes} {added : List (Option Scope)}
    (held : opened.held = (scopes.change (.opens tag)).held ++ added) :
    (opened.change (.closes scopes.held.length)).current = scopes.current ∧
      (opened.change (.closes scopes.held.length)).held = scopes.held ++ none :: added := by
  have grown : opened.held = scopes.held ++ some ⟨scopes.current⟩ :: added := by
    simpa [change, Scope.opened] using held
  have found : opened.held[scopes.held.length]? = some (some ⟨scopes.current⟩) := by
    rw [grown, List.getElem?_append_right (Nat.le_refl _), Nat.sub_self, List.getElem?_cons_zero]
  simp only [change, found, Scope.closed, true_and]
  rw [grown, List.set_append_right _ _ (Nat.le_refl _), Nat.sub_self, List.set_cons_zero]

theorem Nested.after_eq (nested : Nested first changes last) (counted : scopes.held.length = first) :
    (scopes.after changes).current = scopes.current ∧
      ∃ added, (scopes.after changes).held = scopes.held ++ added ∧
        (scopes.after changes).held.length = last := by
  induction nested generalizing scopes with
  | nothing count => exact ⟨rfl, [], (List.append_nil _).symm, counted⟩
  | @scope tag first next last inside later _ _ ihInner ihBehind =>
      subst counted
      obtain ⟨-, added, held, count⟩ := ihInner (length_opens scopes tag)
      obtain ⟨current, closed⟩ := change_closes held
      have closedCount : (((scopes.change (.opens tag)).after inside).change
          (.closes scopes.held.length)).held.length = next := by
        rw [closed, ← count, held]
        simp [change]
      obtain ⟨restored, more, heldLater, countLater⟩ := ihBehind closedCount
      rw [after_cons, after_append, after_cons]
      refine ⟨restored.trans current, none :: added ++ more, ?_, countLater⟩
      rw [heldLater, closed, List.append_assoc]

theorem Nested.scope_restores (inner : Nested (scopes.held.length + 1) inside next) (tag : Tag) :
    let closed := scopes.after (.opens tag :: (inside ++ [.closes scopes.held.length]))
    closed.current = scopes.current ∧ closed.held.length = next := by
  obtain ⟨-, added, held, count⟩ := inner.after_eq (length_opens scopes tag)
  obtain ⟨current, closed⟩ := change_closes held
  rw [after_cons, after_append, after_cons]
  refine ⟨current, ?_⟩
  rw [← count, held]
  refine (congrArg List.length closed).trans ?_
  simp [change]

/-- At each closing the tag is again what it was before the opening of the same scope. -/
theorem Nested.closing_restores (nested : Nested first changes last)
    (counted : scopes.held.length = first) (split : changes = before ++ .closes number :: rest) :
    ∃ outer tag inside, before = outer ++ .opens tag :: inside ∧
      (scopes.after outer).held.length = number ∧
      (scopes.after (before ++ [.closes number])).current = (scopes.after outer).current := by
  induction nested generalizing scopes before rest with
  | nothing count => simp at split
  | @scope tag first next last inside later inner _ ihInner ihBehind =>
      subst counted
      obtain ⟨current, count⟩ := inner.scope_restores tag
      cases before with
      | nil => cases split
      | cons change before =>
          obtain ⟨opens, tail⟩ := List.cons.inj split
          subst opens
          rcases List.append_eq_append_iff.mp tail with ⟨between, rfl, same⟩ | ⟨between, rfl, same⟩
          · cases between with
            | nil =>
                cases (List.cons.inj same).1
                exact ⟨[], tag, inside, by rw [List.append_nil]; rfl, rfl, by
                  rw [List.append_nil, List.cons_append]
                  exact current⟩
            | cons closes between =>
                obtain ⟨closed, rfl⟩ := List.cons.inj same
                cases closed
                -- The closing lies behind the scope: the tag is as it was before that.
                obtain ⟨outer, own, content, rfl, found, restored⟩ := ihBehind count rfl
                refine ⟨.opens tag :: (inside ++ [.closes scopes.held.length]) ++ outer, own, content,
                  by simp, by rwa [after_append], ?_⟩
                have whole : .opens tag :: (inside ++ .closes scopes.held.length ::
                    (outer ++ .opens own :: content)) ++ [.closes number] =
                  .opens tag :: (inside ++ [.closes scopes.held.length]) ++
                    (outer ++ .opens own :: content ++ [.closes number]) := by simp
                rw [whole, after_append, restored, ← after_append]
          · cases between with
            | nil =>
                cases (List.cons.inj same).1
                rw [List.append_nil] at current
                exact ⟨[], tag, before, rfl, rfl, current⟩
            | cons closes between =>
                cases (List.cons.inj same).1
                obtain ⟨outer, own, content, rfl, found, restored⟩ :=
                  ihInner (length_opens scopes tag) rfl
                exact ⟨.opens tag :: outer, own, content, rfl, found, restored⟩

end Log.Scopes

/-- The tag that an event is to carry: that of its step, or else the one around the run. -/
def Event.tagWithin (outer : Option Log.Tag) : Event → Option Log.Tag
  | .stepStarted task index _ | .stepSkipped task index _ | .stepWarning task index _ =>
      some ⟨task, index⟩
  | .taskStarted .. | .taskFinished .. => outer

/-- The executor finds the tag of the step that it is called for, and an event carries its own. -/
def Moment.Follows (outer : Option Log.Tag) (moment : Moment) : Prop :=
  match moment.occurrence with
  | .called _ context => context.tag = moment.tag ∧ moment.tag = some ⟨context.task, context.index⟩
  | .event event => moment.tag = event.tagWithin outer
  | .noted _ => True

namespace Sequencer

theorem follows_attempt {attempt : Attempt σ} (outer : Option Log.Tag)
    (tagged : attempt.context.tag = some ⟨attempt.context.task, attempt.context.index⟩) :
    ∀ moment ∈ attempt.moments, moment.Follows outer := by
  have closing : ∀ moment ∈ attempt.closing, moment.Follows outer := by
    unfold Attempt.closing
    cases attempt.result.value with
    | ok outcome =>
        cases outcome <;>
          simp [Moment.Follows, Moment.logged, Moment.emitted, tagged, Event.tagWithin]
    | error failure =>
        dsimp only
        split <;> simp [Moment.Follows, Moment.logged, Moment.emitted, tagged, Event.tagWithin]
  intro moment member
  simp only [Attempt.moments, List.mem_append, List.mem_cons, List.not_mem_nil, or_false] at member
  rcases member with ((rfl | rfl | rfl) | noted) | closed
  · trivial
  · exact tagged
  · exact ⟨rfl, tagged⟩
  · obtain ⟨note, -, rfl⟩ := List.mem_map.mp noted
    trivial
  · exact closing moment closed

variable (sequencer : Sequencer σ)

theorem tagged_of_mem_passage {task : Task} {state : σ} {attempt : Attempt σ}
    (member : attempt ∈ (sequencer.passage task state).attempts) :
    attempt.context.tag = some ⟨attempt.context.task, attempt.context.index⟩ := by
  have called : attempt.call ∈ sequencer.callsFrom task 1 task.steps :=
    (sequencer.executor.follow_prefix _ state).subset (List.mem_map_of_mem member)
  obtain ⟨⟨step, index⟩, -, same⟩ := List.mem_map.mp called
  have own : sequencer.context task index = attempt.context := congrArg Prod.snd same
  rw [← own]
  rfl

theorem follows_passage {plan : List Task} {state : σ} {passage : Passage σ} (outer : Option Log.Tag)
    (member : passage ∈ sequencer.passages plan state) :
    ∀ moment ∈ passage.moments outer, moment.Follows outer := by
  obtain ⟨task, -, before, rfl⟩ := sequencer.mem_passages member
  intro moment inside
  simp only [Passage.moments, List.mem_append, List.mem_cons, List.not_mem_nil, or_false] at inside
  rcases inside with ((rfl | rfl) | stepped) | rfl | rfl
  · trivial
  · rfl
  · obtain ⟨attempt, attempted, inside⟩ := List.mem_flatMap.mp stepped
    exact follows_attempt outer (sequencer.tagged_of_mem_passage attempted) moment inside
  · trivial
  · rfl

theorem follows_run (outer : Option Log.Tag) (targets : List String) (session : Session σ) :
    ∀ moment ∈ (sequencer.run outer targets session).moments, moment.Follows outer := by
  intro moment member
  cases resolved : sequencer.graph.resolve targets with
  | error failure =>
      rw [run_refused sequencer outer session resolved] at member
      cases member
  | ok plan =>
      rw [run_eq sequencer outer session resolved] at member
      simp only [List.mem_append, List.mem_cons] at member
      rcases member with (rfl | passed) | ended
      · trivial
      · obtain ⟨passage, listed, inside⟩ := List.mem_flatMap.mp passed
        exact sequencer.follows_passage outer listed moment inside
      · cases aborted : (sequencer.passages plan session.state).findSome? Passage.abort? with
        | some failure =>
            rw [aborted] at ended
            cases ended
        | none =>
            rw [aborted] at ended
            rw [List.mem_singleton.mp ended]
            trivial

theorem tagBehind_eq (outer : Option Log.Tag) (targets : List String) (session : Session σ) :
    sequencer.tagBehind outer targets session = outer := by
  unfold tagBehind runWithin
  cases sequencer.plan targets with
  | error failure => rfl
  | ok plan =>
      simp only [runTasks_eq, Progress.log_eq]
      cases (sequencer.passages plan session.state).findSome? Passage.abort? <;> rfl

/-- During the calls and the events of a step the tag is that of the step, and during the other events
of a run the one from before it, which is also in force after the run, however it ends.  More
generally, scopes that are closed in the reverse of the order in which they were opened bring the tag
back at each closing. -/
theorem run_tags_follow_steps (outer : Option Log.Tag) (targets : List String) (session : Session σ) :
    (∀ moment ∈ (sequencer.run outer targets session).moments,
      (∀ step context, moment.occurrence = .called step context →
        context.tag = moment.tag ∧ moment.tag = some ⟨context.task, context.index⟩) ∧
      ∀ event, moment.occurrence = .event event → moment.tag = event.tagWithin outer) ∧
    sequencer.tagBehind outer targets session = outer ∧
    ∀ (scopes : Log.Scopes) (changes : List Log.Scopes.Change) (last : Nat),
      Log.Scopes.Nested scopes.held.length changes last →
        (scopes.after changes).current = scopes.current ∧
        ∀ before number rest, changes = before ++ .closes number :: rest →
          ∃ earlier tag inside, before = earlier ++ .opens tag :: inside ∧
            (scopes.after earlier).held.length = number ∧
            (scopes.after (before ++ [.closes number])).current = (scopes.after earlier).current := by
  refine ⟨fun moment member => ?_, sequencer.tagBehind_eq outer targets session,
    fun scopes changes last nested => ?_⟩
  · have follows := sequencer.follows_run outer targets session moment member
    unfold Moment.Follows at follows
    refine ⟨fun step context called => ?_, fun event emitted => ?_⟩
    · rwa [called] at follows
    · rwa [emitted] at follows
  · exact ⟨(nested.after_eq rfl).1, fun before number rest split => nested.closing_restores rfl split⟩

/-- The scope around a run. -/
def nightly : Log.Tag := ⟨"nightly", 3⟩

/-- A run inside a scope is interrupted in its second task.  Then one scope is opened in another. -/
theorem rollout_tags_follow_steps :
    (rollout.run (some nightly) ["deploy"] interruptedRollout).value = .error .interrupted ∧
    (∀ moment ∈ (rollout.run (some nightly) ["deploy"] interruptedRollout).moments,
      moment.occurrence = .event (.taskFinished "deploy" (.failed "Interrupted")) →
        moment.tag = some nightly) ∧
    rollout.tagBehind (some nightly) ["deploy"] interruptedRollout = some nightly ∧
    Log.Scopes.Nested 1 [.opens ⟨"outer", 1⟩, .opens ⟨"inner", 2⟩, .closes 2, .closes 1] 3 ∧
    (Log.Scopes.after ⟨some nightly, [some ⟨none⟩]⟩
      [.opens ⟨"outer", 1⟩, .opens ⟨"inner", 2⟩, .closes 2, .closes 1]).current = some nightly := by
  obtain ⟨tags, behind, scopes⟩ :=
    rollout.run_tags_follow_steps (some nightly) ["deploy"] interruptedRollout
  have inner : Log.Scopes.Nested 2 [.opens ⟨"inner", 2⟩, .closes 2] 3 :=
    .scope (.nothing 3) (.nothing 3)
  have nested : Log.Scopes.Nested 1
      [.opens ⟨"outer", 1⟩, .opens ⟨"inner", 2⟩, .closes 2, .closes 1] 3 :=
    .scope inner (.nothing 3)
  exact ⟨rfl, fun moment member finished => (tags moment member).2 _ finished, behind, nested,
    (scopes ⟨some nightly, [some ⟨none⟩]⟩ _ 3 nested).1⟩

end Sequencer

end Groundwork
