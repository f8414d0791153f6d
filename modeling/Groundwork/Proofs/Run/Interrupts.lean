import Groundwork.Proofs.Act
import Groundwork.Proofs.Resource.History
import Groundwork.Proofs.Run.Calls
import Groundwork.Proofs.Run.Failures
import Groundwork.Proofs.Vars.Expansion
import Mathlib.Data.List.Forall2

namespace Groundwork

/-! What an interrupt puts an end to.

Steps that ensure a resource go through the guard, any other step is an act of its own.  What is done
for the steps of a run is watched from outside: every listing, every creation and every act, with how
it failed.  The guard takes a listing that fails for one that names nothing, whatever the failure, and
so an interrupt ends a run exactly when it is not a listing that it meets.  On a machine no listing
meets one.
-/

universe u

variable {σ : Type u}

/-- How a step is carried out. -/
inductive Conduct (σ : Type u) where
  | direct (act : Act σ StepOutcome)
  | guarded (listing : Act σ (List String)) (name : String) (create : Act σ Unit)

inductive Duty where
  | direct
  | listing
  | creation
  deriving DecidableEq

/-- Something done for a step, with how it failed if it did. -/
structure Deed where
  duty : Duty
  failure : Option Failure
  deriving DecidableEq

structure Watched (σ : Type u) where
  state : σ
  deeds : List Deed

namespace Act

variable {α : Type}

def watched (duty : Duty) (act : Act σ α) : Act (Watched σ) α := fun watched =>
  let result := act watched.state
  ⟨result.value, ⟨result.state, watched.deeds ++ [⟨duty, failure? result.value⟩]⟩, result.notes⟩

end Act

namespace Conduct

def outcomeOf (name : String) : Guard.Outcome → StepOutcome
  | .initialized => .ran
  | .alreadyPresent => .skipped ("'" ++ name ++ "' already exists")

def perform : Conduct σ → Act σ StepOutcome
  | .direct act => act
  | .guarded listing name create =>
      (Guard.ensure listing name create).andThen fun outcome => .done (outcomeOf name outcome)

def watched : Conduct σ → Conduct (Watched σ)
  | .direct act => .direct (act.watched .direct)
  | .guarded listing name create =>
      .guarded (listing.watched .listing) name (create.watched .creation)

end Conduct

namespace Executor

def conducting (conduct : Step → StepContext → Conduct σ) : Executor σ :=
  ⟨fun step context => (conduct step context).perform⟩

def watching (conduct : Step → StepContext → Conduct σ) : Executor (Watched σ) :=
  conducting fun step context => (conduct step context).watched

end Executor

/-- The first act does to the state what the second does to its image, and ends in the same way. -/
def Act.Mirrors {τ : Type u} {α : Type} (image : τ → σ) (act : Act τ α) (other : Act σ α) : Prop :=
  ∀ state, other (image state) =
    ⟨(act state).value, image (act state).state, (act state).notes⟩

namespace Act.Mirrors

variable {τ : Type u} {α β : Type} {image : τ → σ}

theorem done (value : α) : Mirrors image (Act.done value) (Act.done value) := fun _ => rfl

theorem log (level : Log.Level) (text : String) :
    Mirrors image (Act.log level text) (Act.log level text) := fun _ => rfl

theorem andThen {act : Act τ α} {other : Act σ α} {next : α → Act τ β} {otherNext : α → Act σ β}
    (first : Mirrors image act other) (later : ∀ value, Mirrors image (next value) (otherNext value)) :
    Mirrors image (act.andThen next) (other.andThen otherNext) := by
  intro state
  simp only [Act.andThen, first state]
  cases (act state).value with
  | error failure => rfl
  | ok value => simp only [later value (act state).state]

theorem isListed {listing : Act τ (List String)} {other : Act σ (List String)}
    (lists : Mirrors image listing other) (name : String) :
    Mirrors image (Guard.isListed listing name) (Guard.isListed other name) := by
  intro state
  simp only [Guard.isListed, lists state]
  cases (listing state).value <;> rfl

theorem ensure {listing : Act τ (List String)} {other : Act σ (List String)} {create : Act τ Unit}
    {otherCreate : Act σ Unit} (lists : Mirrors image listing other)
    (creates : Mirrors image create otherCreate) (name : String) :
    Mirrors image (Guard.ensure listing name create) (Guard.ensure other name otherCreate) := by
  refine (lists.isListed name).andThen fun listed => ?_
  cases listed with
  | true => exact (log _ _).andThen fun _ => done _
  | false => exact (log _ _).andThen fun _ => creates.andThen fun _ => done _

theorem watched (duty : Duty) (act : Act σ α) : Mirrors Watched.state (act.watched duty) act :=
  fun _ => rfl

end Act.Mirrors

theorem Conduct.perform_watched (conduct : Conduct σ) :
    Act.Mirrors Watched.state conduct.watched.perform conduct.perform := by
  cases conduct with
  | direct act => exact .watched _ act
  | guarded listing name create =>
      exact (Act.Mirrors.ensure (.watched _ listing) (.watched _ create) name).andThen
        fun _ => .done _

def Attempt.unwatched (attempt : Attempt (Watched σ)) : Attempt σ :=
  ⟨attempt.step, attempt.context,
    ⟨attempt.result.value, attempt.result.state.state, attempt.result.notes⟩⟩

theorem Executor.follow_watched (conduct : Step → StepContext → Conduct σ) (calls : List Call)
    (state : Watched σ) :
    (conducting conduct).follow calls state.state =
      ((watching conduct).follow calls state).map Attempt.unwatched := by
  induction calls generalizing state with
  | nil => rfl
  | cons call rest ih =>
      have first : (conducting conduct).attempt state.state call =
          ((watching conduct).attempt state call).unwatched :=
        congrArg (Attempt.mk call.1 call.2) ((conduct call.1 call.2).perform_watched state)
      rw [follow, follow, first]
      generalize (watching conduct).attempt state call = attempt
      have same : attempt.unwatched.aborts = attempt.aborts := rfl
      rw [same]
      split
      · rfl
      · exact congrArg (attempt.unwatched :: ·) (ih attempt.result.state)

/-- The deeds of one call, and how the call fails. -/
inductive Deeds : List Deed → Option Failure → Prop
  | direct (failure : Option Failure) : Deeds [⟨.direct, failure⟩] failure
  | listed : Deeds [⟨.listing, none⟩] none
  | created (refusal failure : Option Failure) :
      Deeds [⟨.listing, refusal⟩, ⟨.creation, failure⟩] failure

theorem ensure_deeds (listing : Act σ (List String)) (name : String) (create : Act σ Unit)
    (watched : Watched σ) :
    let result := Guard.ensure (listing.watched .listing) name (create.watched .creation) watched
    ∃ deeds, result.state.deeds = watched.deeds ++ deeds ∧ Deeds deeds (failure? result.value) := by
  intro result
  by_cases listed : Guard.IsListedAt (listing.watched .listing) name watched
  · obtain ⟨value, state⟩ := Guard.ensure_of_listed (create.watched .creation) listed
    obtain ⟨names, found, _⟩ := listed
    have silent : (listing watched.state).value = .ok names := found
    refine ⟨[⟨.listing, none⟩], ?_, ?_⟩
    · rw [state]
      simp [Act.watched, silent, failure?]
    · rw [value]
      exact .listed
  · obtain ⟨value, state⟩ := Guard.ensure_of_unlisted (create.watched .creation) listed
    refine ⟨[⟨.listing, failure? (listing watched.state).value⟩,
      ⟨.creation, failure? (create (listing watched.state).state).value⟩], ?_, ?_⟩
    · rw [state]
      simp [Act.watched]
    · rw [value, failure?_map]
      exact .created _ _

theorem Conduct.perform_deeds (conduct : Conduct σ) (watched : Watched σ) :
    ∃ deeds, (conduct.watched.perform watched).state.deeds = watched.deeds ++ deeds ∧
      Deeds deeds (failure? (conduct.watched.perform watched).value) := by
  cases conduct with
  | direct act => exact ⟨_, rfl, .direct _⟩
  | guarded listing name create =>
      obtain ⟨deeds, done, told⟩ := ensure_deeds listing name create watched
      obtain ⟨value, state⟩ := Act.andThen_done
        (Guard.ensure (listing.watched .listing) name (create.watched .creation)) (outcomeOf name)
        watched
      refine ⟨deeds, (congrArg Watched.deeds state).trans done, ?_⟩
      rw [Conduct.watched, perform, value, failure?_map]
      exact told

/-- Behind a creation or an act nothing more is done, and behind a listing that failed there is a
creation. -/
theorem Deeds.behind {earlier later : List Deed} {deed : Deed} {failure : Option Failure}
    (deeds : Deeds (earlier ++ deed :: later) failure) :
    (deed.duty ≠ .listing → later = [] ∧ deed.failure = failure) ∧
      (deed.duty = .listing → deed.failure ≠ none →
        ∃ creation, later = [creation] ∧ creation.duty = .creation) := by
  generalize whole : earlier ++ deed :: later = block at deeds
  cases deeds with
  | direct failure =>
      cases earlier with
      | nil =>
          obtain ⟨rfl, rfl⟩ := List.cons.inj whole
          simp
      | cons first rest => simp at whole
  | listed =>
      cases earlier with
      | nil =>
          obtain ⟨rfl, rfl⟩ := List.cons.inj whole
          simp
      | cons first rest => simp at whole
  | created refusal failure =>
      rcases earlier with _ | ⟨first, _ | ⟨second, rest⟩⟩
      · obtain ⟨rfl, rfl⟩ := List.cons.inj whole
        simp
      · obtain ⟨_, same⟩ := List.cons.inj whole
        obtain ⟨rfl, rfl⟩ := List.cons.inj same
        simp
      · simp at whole

theorem Deeds.exists_of_failure {deeds : List Deed} {failure : Failure}
    (told : Deeds deeds (some failure)) :
    ∃ deed ∈ deeds, deed.failure = some failure ∧ deed.duty ≠ .listing := by
  cases told with
  | direct => exact ⟨_, List.mem_cons_self, rfl, by simp⟩
  | created refusal => exact ⟨_, List.mem_cons_of_mem _ List.mem_cons_self, rfl, by simp⟩

namespace Executor

theorem follow_deeds (conduct : Step → StepContext → Conduct σ) (calls : List Call)
    (state : Watched σ) :
    let attempts := (watching conduct).follow calls state
    ∃ blocks, (Attempt.stateAfter state attempts).deeds = state.deeds ++ blocks.flatten ∧
      List.Forall₂ (fun attempt block => Deeds block (failure? attempt.result.value)) attempts
        blocks := by
  induction calls generalizing state with
  | nil => exact ⟨[], by simp [follow, Attempt.stateAfter], .nil⟩
  | cons call rest ih =>
      obtain ⟨block, done, told⟩ := (conduct call.1 call.2).perform_deeds state
      have added : ((watching conduct).attempt state call).result.state.deeds = state.deeds ++ block :=
        done
      simp only [follow]
      split
      · exact ⟨[block], by simpa [Attempt.stateAfter] using added, .cons told .nil⟩
      · obtain ⟨blocks, later, toldLater⟩ := ih ((watching conduct).attempt state call).result.state
        refine ⟨block :: blocks, ?_, .cons told toldLater⟩
        rw [Attempt.stateAfter, List.foldl_cons, ← Attempt.stateAfter, later, added,
          List.flatten_cons, List.append_assoc]

end Executor

/-- Every deed belongs to an attempt; what comes behind it belongs to the same attempt or to later
ones. -/
theorem attempt_of_deed {attempts : List (Attempt (Watched σ))} {blocks : List (List Deed)}
    (told : List.Forall₂ (fun attempt block => Deeds block (failure? attempt.result.value)) attempts
      blocks)
    {earlier later : List Deed} {deed : Deed} (split : blocks.flatten = earlier ++ deed :: later) :
    ∃ before attempt after inside rest more, attempts = before ++ attempt :: after ∧
      Deeds (inside ++ deed :: rest) (failure? attempt.result.value) ∧ later = rest ++ more ∧
      (after = [] → more = []) := by
  induction told generalizing earlier with
  | nil => simp at split
  | @cons attempt block others blocks first told ih =>
      rw [List.flatten_cons] at split
      rcases List.append_eq_append_iff.mp split with ⟨inside, rfl, found⟩ | ⟨rest, rfl, found⟩
      · obtain ⟨before, owner, after, inner, rest, more, rfl, owns⟩ := ih found
        exact ⟨attempt :: before, owner, after, inner, rest, more, rfl, owns⟩
      · cases rest with
        | nil =>
            have start : blocks.flatten = [] ++ deed :: later := found.symm
            obtain ⟨before, owner, after, inner, rest, more, rfl, owns⟩ := ih start
            exact ⟨attempt :: before, owner, after, inner, rest, more, rfl, owns⟩
        | cons head rest =>
            obtain ⟨rfl, rfl⟩ := List.cons.inj found
            refine ⟨[], attempt, others, earlier, rest, blocks.flatten, rfl, first, rfl, ?_⟩
            rintro rfl
            cases told
            rfl

theorem deeds_of_attempt {attempts : List (Attempt (Watched σ))} {blocks : List (List Deed)}
    (told : List.Forall₂ (fun attempt block => Deeds block (failure? attempt.result.value)) attempts
      blocks)
    {attempt : Attempt (Watched σ)} (member : attempt ∈ attempts) :
    ∃ block ∈ blocks, Deeds block (failure? attempt.result.value) := by
  induction told with
  | nil => contradiction
  | @cons first block others blocks owns told ih =>
      rcases List.mem_cons.mp member with rfl | later
      · exact ⟨block, List.mem_cons_self, owns⟩
      · obtain ⟨other, listed, ownsOther⟩ := ih later
        exact ⟨other, List.mem_cons_of_mem _ listed, ownsOther⟩

theorem Attempt.abort?_eq_interrupted {attempt : Attempt σ} :
    attempt.abort? = some .interrupted ↔ attempt.result.value = .error .interrupted := by
  unfold abort? aborts
  cases attempt.result.value with
  | ok outcome => simp
  | error failure => by_cases same : failure = .interrupted <;> simp [same]

theorem Attempt.aborts_of_interrupted {attempt : Attempt σ}
    (interrupted : attempt.result.value = .error .interrupted) : attempt.aborts = true := by
  rw [← abort?_isSome, abort?_eq_interrupted.mpr interrupted]
  rfl

/-- An interrupt that is no listing's is the last deed, and some attempt ends with it.  Behind one that
is a listing's there is a creation. -/
theorem Executor.behind_interrupt {conduct : Step → StepContext → Conduct σ} {calls : List Call}
    {state : Watched σ} {blocks : List (List Deed)}
    (told : List.Forall₂ (fun attempt block => Deeds block (failure? attempt.result.value))
      ((watching conduct).follow calls state) blocks)
    {earlier later : List Deed} {deed : Deed} (split : blocks.flatten = earlier ++ deed :: later)
    (interrupted : deed.failure = some .interrupted) :
    (deed.duty ≠ .listing →
      later = [] ∧ ∃ attempt ∈ (watching conduct).follow calls state,
        attempt.result.value = .error .interrupted) ∧
    (deed.duty = .listing →
      ∃ creation rest, later = creation :: rest ∧ creation.duty = .creation) := by
  obtain ⟨before, attempt, after, inside, rest, more, made, owned, rfl, last⟩ :=
    attempt_of_deed told split
  obtain ⟨other, listing⟩ := owned.behind
  refine ⟨fun unlisted => ?_, fun listed => ?_⟩
  · obtain ⟨rfl, failed⟩ := other unlisted
    have value := failure?_eq_some.mp (failed.symm.trans interrupted)
    have nothing : after = [] := follow_aborts_last _ made (Attempt.aborts_of_interrupted value)
    exact ⟨last nothing, attempt, made ▸ List.mem_append_right _ List.mem_cons_self, value⟩
  · obtain ⟨creation, rfl, creates⟩ := listing listed (by simp [interrupted])
    exact ⟨creation, more, rfl, creates⟩

namespace Sequencer

/-- The sequencer with steps carried out as said. -/
def conducting (sequencer : Sequencer σ) (conduct : Step → StepContext → Conduct σ) : Sequencer σ :=
  { sequencer with executor := .conducting conduct }

def watching (sequencer : Sequencer σ) (conduct : Step → StepContext → Conduct σ) :
    Sequencer (Watched σ) :=
  { sequencer with executor := .watching conduct }

/-- What is done in a run, in order. -/
def deeds (sequencer : Sequencer σ) (conduct : Step → StepContext → Conduct σ)
    (outer : Option Log.Tag) (targets : List String) (session : Session σ) : List Deed :=
  ((sequencer.watching conduct).run outer targets
    ⟨⟨session.state, []⟩, session.report⟩).session.state.deeds

theorem run_error_iff (sequencer : Sequencer σ) (outer : Option Log.Tag) {targets : List String}
    {plan : List Task} (session : Session σ)
    (resolved : sequencer.graph.resolve targets = .ok plan) {failure : Failure} :
    (sequencer.run outer targets session).value = .error failure ↔
      (sequencer.executor.follow (sequencer.schedule plan) session.state).findSome? Attempt.abort? =
        some failure := by
  rw [run_value_attempts sequencer outer session resolved, attempts_run sequencer outer session resolved]
  cases (sequencer.executor.follow _ _).findSome? Attempt.abort? <;> simp

theorem findSome?_watching (sequencer : Sequencer σ) (conduct : Step → StepContext → Conduct σ)
    (plan : List Task) (state : σ) :
    ((sequencer.conducting conduct).executor.follow ((sequencer.conducting conduct).schedule plan)
        state).findSome? Attempt.abort? =
      ((Executor.watching conduct).follow ((sequencer.watching conduct).schedule plan)
        ⟨state, []⟩).findSome? Attempt.abort? := by
  have same : (sequencer.conducting conduct).executor.follow
      ((sequencer.conducting conduct).schedule plan) state = _ :=
    Executor.follow_watched conduct ((sequencer.watching conduct).schedule plan) ⟨state, []⟩
  rw [same, List.findSome?_map]
  rfl

theorem run_interrupted_iff (sequencer : Sequencer σ) (conduct : Step → StepContext → Conduct σ)
    (outer : Option Log.Tag) {targets : List String} {plan : List Task} (session : Session σ)
    (resolved : sequencer.graph.resolve targets = .ok plan) :
    ((sequencer.conducting conduct).run outer targets session).value = .error .interrupted ↔
      ∃ attempt ∈ (Executor.watching conduct).follow ((sequencer.watching conduct).schedule plan)
        ⟨session.state, []⟩, attempt.result.value = .error .interrupted := by
  rw [run_error_iff (sequencer.conducting conduct) outer session resolved, findSome?_watching]
  constructor
  · intro ended
    obtain ⟨attempt, member, aborting⟩ := List.exists_of_findSome?_eq_some ended
    exact ⟨attempt, member, Attempt.abort?_eq_interrupted.mp aborting⟩
  · rintro ⟨attempt, member, interrupted⟩
    rw [Executor.findSome?_follow _ member (Attempt.aborts_of_interrupted interrupted)]
    exact Attempt.abort?_eq_interrupted.mpr interrupted

theorem deeds_eq (sequencer : Sequencer σ) (conduct : Step → StepContext → Conduct σ)
    (outer : Option Log.Tag) {targets : List String} {plan : List Task} (session : Session σ)
    (resolved : sequencer.graph.resolve targets = .ok plan) :
    ∃ blocks, sequencer.deeds conduct outer targets session = blocks.flatten ∧
      List.Forall₂ (fun attempt block => Deeds block (failure? attempt.result.value))
        ((Executor.watching conduct).follow ((sequencer.watching conduct).schedule plan)
          ⟨session.state, []⟩) blocks := by
  obtain ⟨blocks, done, told⟩ := Executor.follow_deeds conduct
    ((sequencer.watching conduct).schedule plan) ⟨session.state, []⟩
  have state := run_state (sequencer.watching conduct) outer
    ⟨⟨session.state, []⟩, session.report⟩ resolved
  rw [attempts_passages] at state
  exact ⟨blocks, (congrArg Watched.deeds state).trans done, told⟩

theorem deeds_refused (sequencer : Sequencer σ) (conduct : Step → StepContext → Conduct σ)
    (outer : Option Log.Tag) {targets : List String} {failure : Failure} (session : Session σ)
    (refused : sequencer.graph.resolve targets = .error failure) :
    sequencer.deeds conduct outer targets session = [] := by
  rw [deeds, run_refused (sequencer.watching conduct) outer _ refused]

/-- An interrupt ends a run exactly when something else than a listing meets it.  Then nothing more is
done and the run returns it, whether the step is a best-effort one or not; behind a listing that is
interrupted the resource is created. -/
theorem interrupt_ends_unless_listing (sequencer : Sequencer σ)
    (conduct : Step → StepContext → Conduct σ) (outer : Option Log.Tag) (targets : List String)
    (session : Session σ) :
    let result := (sequencer.conducting conduct).run outer targets session
    let deeds := sequencer.deeds conduct outer targets session
    (∀ earlier deed later, deeds = earlier ++ deed :: later → deed.failure = some .interrupted →
      (deed.duty ≠ .listing → later = [] ∧ result.value = .error .interrupted) ∧
      (deed.duty = .listing →
        ∃ creation rest, later = creation :: rest ∧ creation.duty = .creation)) ∧
    (result.value = .error .interrupted ↔
      ∃ deed ∈ deeds, deed.failure = some .interrupted ∧ deed.duty ≠ .listing) := by
  intro result deeds
  by_cases declared : ∀ target ∈ targets, target ∈ sequencer.graph.tasks.map Task.name
  · have resolved := (TaskGraph.resolve_declared declared).1
    have ended := run_interrupted_iff sequencer conduct outer session resolved
    obtain ⟨blocks, watched, told⟩ := deeds_eq sequencer conduct outer session resolved
    have behind : ∀ earlier deed later, deeds = earlier ++ deed :: later →
        deed.failure = some .interrupted →
        (deed.duty ≠ .listing → later = [] ∧ result.value = .error .interrupted) ∧
        (deed.duty = .listing →
          ∃ creation rest, later = creation :: rest ∧ creation.duty = .creation) := by
      intro earlier deed later split interrupted
      obtain ⟨other, listing⟩ :=
        Executor.behind_interrupt told (watched.symm.trans split) interrupted
      exact ⟨fun unlisted => (other unlisted).imp_right ended.mpr, listing⟩
    refine ⟨behind, fun interrupted => ?_, fun ⟨deed, member, failed, unlisted⟩ => ?_⟩
    · obtain ⟨attempt, member, value⟩ := ended.mp interrupted
      obtain ⟨block, listed, owns⟩ := deeds_of_attempt told member
      rw [value] at owns
      obtain ⟨deed, inside, failed, unlisted⟩ := owns.exists_of_failure
      have done : deed ∈ blocks.flatten := List.mem_flatten_of_mem listed inside
      rw [← watched] at done
      exact ⟨deed, done, failed, unlisted⟩
    · obtain ⟨earlier, later, split⟩ := List.append_of_mem member
      exact ((behind earlier deed later split failed).1 unlisted).2
  · obtain ⟨target, _, _, refused⟩ := TaskGraph.resolve_undeclared declared
    have nothing : deeds = [] := deeds_refused sequencer conduct outer session refused
    have value : result = _ := run_refused (sequencer.conducting conduct) outer session refused
    simp [nothing, value]

/-- Two resources that are created one after the other. -/
def provisioning : Sequencer Unit where
  graph :=
    { tasks :=
        [⟨"network", none, [], [⟨none, false, .ensureResource "net" ["list"] none "create" none⟩]⟩,
          ⟨"machine", none, ["network"],
            [⟨none, true, .ensureResource "vm" ["list"] none "create" none⟩,
              ⟨none, false, .shell "attach" none⟩]⟩]
      distinct := rfl
      declared := rfl
      orderable := rfl }
  executor := .conducting fun _ _ => .direct (.done .ran)
  vars := .empty
  environment := .empty
  baseDirectory := "/"
  timeout := none

/-- An interrupt meets the listing of networks, and another one the creation of the machine. -/
def interruptedTwice (_ : Step) (context : StepContext) : Conduct Unit :=
  if context.task = "network" then .guarded (.fail .interrupted) "net" (.done ())
  else if context.index = 1 then .guarded (.done ["net"]) "vm" (.fail .interrupted)
  else .direct (.done .ran)

theorem provisioning_interrupted :
    provisioning.deeds interruptedTwice none ["machine"] ⟨(), none⟩ =
        [⟨.listing, some .interrupted⟩, ⟨.creation, none⟩, ⟨.listing, none⟩,
          ⟨.creation, some .interrupted⟩] ∧
      ((provisioning.conducting interruptedTwice).run none ["machine"] ⟨(), none⟩).value =
        .error .interrupted := by
  obtain ⟨behind, _⟩ := provisioning.interrupt_ends_unless_listing interruptedTwice none ["machine"]
    ⟨(), none⟩
  obtain ⟨ended, _⟩ := behind [_, _, _] ⟨.creation, some .interrupted⟩ [] rfl rfl
  exact ⟨rfl, (ended (by decide)).2⟩

/-- The run goes on behind the interrupt, and succeeds. -/
theorem provisioning_interrupt_lost :
    ¬ ∀ earlier deed later,
      provisioning.deeds interruptedTwice none ["network"] ⟨(), none⟩ = earlier ++ deed :: later →
      deed.failure = some .interrupted →
        later = [] ∧
          ((provisioning.conducting interruptedTwice).run none ["network"] ⟨(), none⟩).value =
            .error .interrupted := by
  intro ends
  obtain ⟨_, value⟩ := ends [] ⟨.listing, some .interrupted⟩ [⟨.creation, none⟩] rfl rfl
  have succeeded : ((provisioning.conducting interruptedTwice).run none ["network"]
      ⟨(), none⟩).value.isOk = true := rfl
  rw [value] at succeeded
  contradiction

end Sequencer

theorem Command.capture_raises (host : Host) (command : Command) :
    Act.RaisesOnly (fun failure => !failure.isFatal) (command.capture host) := by
  have calm : ∀ failure : Failure, failure.isIo = true → (!failure.isFatal) = true := by
    intro failure isIo
    cases failure <;> first | rfl | contradiction
  exact capture_obeys ((start_raises host ⟨none, false⟩ command).mono calm) (fun _ => id)
    fun _ _ => trivial

namespace LiveRun

/-- How a step is carried out on a machine. -/
def conduct (host : Host) (step : Step) (context : StepContext) : Conduct Machine :=
  match step.action.resolve context with
  | .error failure => .direct (.fail failure)
  | .ok (.ensureResource name listing pattern create directory) =>
      let vars := context.vars.entries
      match Command.ofWords listing directory vars, Listing.extraction pattern with
      | .error failure, _ => .direct (.fail failure)
      | .ok _, .error failure => .direct (.fail failure)
      | .ok lister, .ok extract =>
          .guarded (listed host lister extract) name
            ((Command.shell create directory vars).run host context.timeout)
  | .ok action => .direct (perform host context action)

theorem executor_conducting (host : Host) : executor host = .conducting (conduct host) := by
  refine congrArg Executor.mk (funext fun step => funext fun context => ?_)
  unfold execute conduct
  cases step.action.resolve context with
  | error failure => rfl
  | ok action =>
      cases action with
      | ensureResource name listing pattern create directory =>
          change ensureResource host context name listing pattern create directory = _
          unfold ensureResource
          simp only
          cases Command.ofWords listing directory context.vars.entries with
          | error failure => rfl
          | ok lister =>
              cases Listing.extraction pattern with
              | error failure => rfl
              | ok extract =>
                  change Act.andThen (Guard.ensure _ _ _) _ = Act.andThen (Guard.ensure _ _ _) _
                  refine congrArg (Act.andThen _) (funext fun outcome => ?_)
                  cases outcome <;> rfl
      | shell | exec | copyIfAbsent | cloneIfAbsent | tfvars | remove => rfl

/-- No listing is interrupted, so that here an interrupt always ends the run. -/
theorem conduct_lists {host : Host} {step : Step} {context : StepContext}
    {listing : Act Machine (List String)} {name : String} {create : Act Machine Unit}
    (guarded : conduct host step context = .guarded listing name create) :
    Act.RaisesOnly (fun failure => !failure.isFatal) listing := by
  unfold conduct at guarded
  split at guarded
  · contradiction
  · simp only at guarded
    split at guarded
    · contradiction
    · contradiction
    · cases guarded
      exact .bind (Command.capture_raises host _) fun _ => .bind (.log trivial) fun _ => .pure _
  · contradiction

end LiveRun
end Groundwork
