import Groundwork.Child.Machine

namespace Groundwork

/-! What an operation can end with. -/

section

universe u v w

variable {ε : Type u} {ζ : Type v} {α β : Type w}

theorem bind_eq_ok {value : Except ε α} {next : α → Except ε β} {result : β} :
    value >>= next = .ok result ↔ ∃ between, value = .ok between ∧ next between = .ok result := by
  cases value <;> simp [bind, Except.bind]

theorem bind_eq_error {value : Except ε α} {next : α → Except ε β} {reason : ε} :
    value >>= next = .error reason ↔
      value = .error reason ∨ ∃ between, value = .ok between ∧ next between = .error reason := by
  cases value <;> simp [bind, Except.bind]

theorem mapError_eq_ok {value : Except ε α} {convert : ε → ζ} {result : α} :
    value.mapError convert = .ok result ↔ value = .ok result := by
  cases value with
  | error cause => exact iff_of_false nofun nofun
  | ok value =>
      change Except.ok value = .ok result ↔ _
      simp

theorem mapError_eq_error {value : Except ε α} {convert : ε → ζ} {reason : ζ} :
    value.mapError convert = .error reason ↔ ∃ cause, value = .error cause ∧ convert cause = reason := by
  cases value with
  | error cause =>
      change Except.error (convert cause) = .error reason ↔ _
      simp
  | ok value => exact iff_of_false nofun (fun ⟨_, same, _⟩ => nomatch same)

end

namespace Act

universe u v w

variable {σ : Type u} {α β : Type v}

theorem andThen_eq_ok {act : Act σ α} {next : α → Act σ β} {state : σ} {result : β} :
    (act.andThen next state).value = .ok result ↔
      ∃ between, (act state).value = .ok between ∧
        (next between (act state).state).value = .ok result := by
  rw [andThen]
  cases (act state).value <;> simp

theorem andThen_done (act : Act σ α) (convert : α → β) (state : σ) :
    (act.andThen (fun value => .done (convert value)) state).value = (act state).value.map convert ∧
      (act.andThen (fun value => .done (convert value)) state).state = (act state).state := by
  rw [andThen]
  cases (act state).value with
  | error failure => exact ⟨rfl, rfl⟩
  | ok value => exact ⟨rfl, rfl⟩

theorem andThen_congr {act other : Act σ α} {next more : α → Act σ β} {state : σ}
    (first : act state = other state)
    (later : ∀ value, next value (act state).state = more value (act state).state) :
    act.andThen next state = other.andThen more state := by
  simp only [andThen, ← first, later]

/-- What operations of one kind may do: how they fail, where they lead and what they voice.  Doing
nothing is allowed, and so is doing one thing after another. -/
structure Law (σ : Type u) where
  fails : Failure → Prop
  leads : σ → σ → Prop
  voices : Note → Prop
  stays (state : σ) : leads state state
  follows {first between last : σ} (earlier : leads first between) (later : leads between last) :
    leads first last

namespace Law

/-- The law of operations whose failures are caught. -/
def caught (law : Law σ) : Law σ :=
  { law with fails := fun _ => True }

/-- Fails in the allowed ways only. -/
def raising (allowed : Failure → Bool) : Law σ where
  fails failure := allowed failure = true
  leads _ _ := True
  voices _ := True
  stays _ := trivial
  follows _ _ := trivial

/-- What holds before holds after. -/
def maintaining (invariant : σ → Prop) : Law σ where
  fails _ := True
  leads first last := invariant first → invariant last
  voices _ := True
  stays _ holds := holds
  follows earlier later holds := later (earlier holds)

/-- Changes nothing. -/
def keeping (fails : Failure → Prop) (voices : Note → Prop) : Law σ where
  fails := fails
  leads := Eq
  voices := voices
  stays := Eq.refl
  follows := Eq.trans

def silent : Law σ :=
  { raising fun _ => true with voices := fun _ => False }

/-- Whatever the law says of states, it forbids none. -/
def IsFree (law : Law σ) : Prop :=
  ∀ first last, law.leads first last

end Law

/-- What an operation has done from a state on is allowed. -/
structure Law.Allows (law : Law σ) (state : σ) (result : Result σ α) : Prop where
  fails : ∀ failure, result.value = .error failure → law.fails failure
  leads : law.leads state result.state
  voices : ∀ note ∈ result.notes, law.voices note

def Obeys (law : Law σ) (act : Act σ α) : Prop :=
  ∀ state, law.Allows state (act state)

namespace Obeys

variable {law : Law σ}

theorem pure (value : α) : Obeys law (pure value : Act σ α) :=
  fun state => ⟨nofun, law.stays state, List.forall_mem_nil _⟩

theorem ofExcept {value : Except Failure α} (fails : ∀ failure, value = .error failure → law.fails failure) :
    Obeys law (Act.ofExcept value : Act σ α) :=
  fun state => ⟨fails, law.stays state, List.forall_mem_nil _⟩

theorem throw {failure : Failure} (fails : law.fails failure) :
    Obeys law (throw failure : Act σ α) :=
  ofExcept fun _ same => Except.error.inj same ▸ fails

theorem note {note : Note} (voices : law.voices note) : Obeys law (Act.note note : Act σ PUnit) :=
  fun state => ⟨nofun, law.stays state, List.forall_mem_singleton.mpr voices⟩

theorem log {level : Log.Level} {text : String} (voices : law.voices (.logged level text)) :
    Obeys law (Act.log level text : Act σ PUnit) :=
  note voices

theorem read (look : σ → α) : Obeys law (Act.read look) :=
  fun state => ⟨nofun, law.stays state, List.forall_mem_nil _⟩

theorem andThen {act : Act σ α} {next : α → Act σ β} (first : Obeys law act)
    (later : ∀ value, Obeys law (next value)) : Obeys law (act.andThen next) := by
  intro state
  obtain ⟨fails, leads, voices⟩ := first state
  rw [Act.andThen]
  cases value : (act state).value with
  | error failure => exact ⟨fun other same => fails other (value.trans (by simpa using same)), leads, voices⟩
  | ok result =>
      obtain ⟨failsLater, leadsLater, voicesLater⟩ := later result (act state).state
      exact ⟨failsLater, law.follows leads leadsLater, List.forall_mem_append.mpr ⟨voices, voicesLater⟩⟩

theorem bind {act : Act σ α} {next : α → Act σ β} (first : Obeys law act)
    (later : ∀ value, Obeys law (next value)) : Obeys law (act >>= next) :=
  first.andThen later

/-- What is behind a value counts for that value only. -/
theorem behindExcept {value : Except Failure α} {next : α → Act σ β}
    (fails : ∀ failure, value = .error failure → law.fails failure)
    (later : ∀ result, value = .ok result → Obeys law (next result)) :
    Obeys law (Act.ofExcept value >>= next) := by
  cases value with
  | error failure => exact throw (fails failure rfl)
  | ok result =>
      intro state
      exact later result rfl state

theorem forM {element : Type w} {step : element → Act σ PUnit} {elements : List element}
    (each : ∀ one ∈ elements, Obeys law (step one)) : Obeys law (elements.forM step) := by
  induction elements with
  | nil => exact .pure _
  | cons one rest ih =>
      exact (each one List.mem_cons_self).bind fun _ =>
        ih fun other member => each other (List.mem_cons_of_mem _ member)

theorem onStore {α : Type v} {law : Law Store} {wider : Law Machine} {act : Act Store α}
    (obeys : Obeys law act) (fails : ∀ failure, law.fails failure → wider.fails failure)
    (leads : ∀ machine store, law.leads machine.store store → wider.leads machine { machine with store })
    (voices : ∀ note, law.voices note → wider.voices note) : Obeys wider act.onStore := by
  intro machine
  obtain ⟨allowed, reached, said⟩ := obeys machine.store
  exact ⟨fun failure raised => fails failure (allowed failure raised), leads machine _ reached,
    fun note member => voices note (said note member)⟩

theorem look {α : Type v} {law : Law Store} (operation : Store → Except IoCause α)
    (fails : ∀ cause, law.fails (.io cause)) : Obeys law (Act.look operation) := by
  intro store
  unfold Act.look
  cases operation store with
  | ok value => exact pure value store
  | error cause => exact throw (fails cause) store

theorem change {law : Law Store} (operation : Store → Except IoCause Store)
    (fails : ∀ cause, law.fails (.io cause)) (free : law.IsFree) : Obeys law (Act.change operation) := by
  intro store
  unfold Act.change
  cases operation store with
  | ok changed => exact ⟨nofun, free _ _, List.forall_mem_nil _⟩
  | error cause => exact throw (fails cause) store

end Obeys

/-- Whatever the state, the operation fails in the allowed ways only. -/
def RaisesOnly (allowed : Failure → Bool) (act : Act σ α) : Prop :=
  Obeys (.raising allowed) act

namespace Obeys

variable {allowed : Failure → Bool} {act : Act σ α}

theorem of_error
    (raises : ∀ state failure, (act state).value = .error failure → allowed failure = true) :
    Obeys (.raising allowed) act :=
  fun state => ⟨raises state, trivial, fun _ _ => trivial⟩

theorem mono {more : Failure → Bool} (raises : Obeys (.raising allowed) act)
    (implied : ∀ failure, allowed failure = true → more failure = true) : Obeys (.raising more) act :=
  of_error fun state failure raised => implied failure ((raises state).fails failure raised)

end Obeys

theorem RaisesOnly.onStore {α : Type v} {allowed : Failure → Bool} {act : Act Store α}
    (raises : RaisesOnly allowed act) : RaisesOnly allowed act.onStore :=
  Obeys.onStore raises (fun _ => id) (fun _ _ _ => trivial) fun _ _ => trivial

/-- The operation changes nothing and says nothing, whether it fails or not. -/
def Idle (act : Act σ α) : Prop :=
  Obeys (.keeping (fun _ => True) fun _ => False) act

theorem Idle.eq {act : Act σ α} (idle : Idle act) (state : σ) :
    act state = ⟨(act state).value, state, []⟩ := by
  obtain ⟨-, kept, silent⟩ := idle state
  generalize act state = result at kept silent ⊢
  obtain ⟨value, after, notes⟩ := result
  obtain rfl : state = after := kept
  obtain rfl : notes = [] := List.eq_nil_iff_forall_not_mem.mpr silent
  rfl

theorem look_eq_ok {α : Type v} {operation : Store → Except IoCause α} {store : Store} {value : α} :
    (look operation store).value = .ok value ↔ operation store = .ok value := by
  unfold look
  cases operation store <;> simp

theorem look_state {α : Type v} (operation : Store → Except IoCause α) (store : Store) :
    (look operation store).state = store := by
  unfold look
  split <;> rfl

end Act

namespace Failure

def isIo : Failure → Bool
  | .io _ => true
  | _ => false

def isGit : Failure → Bool
  | .git _ => true
  | _ => false

/-- What can come of a tree that is copied. -/
def isOfCopy : Failure → Bool
  | .io _ | .walk _ => true
  | _ => false

def namesNoVariable : Failure → Bool
  | .undefinedVariable _ => false
  | _ => true

/-- What can come of a child process. -/
def isOfChild : Failure → Bool
  | .io _ | .commandFailed .. | .timeout _ | .interrupted => true
  | _ => false

theorem isOfChild_of_isIo (failure : Failure) (isIo : failure.isIo = true) :
    failure.isOfChild = true := by
  cases failure with
  | io cause => rfl
  | _ => contradiction

theorem namesNoVariable_of {kind : Failure → Bool} (never : ∀ name, kind (.undefinedVariable name) = false)
    (failure : Failure) (isOfKind : kind failure = true) : failure.namesNoVariable = true := by
  cases failure with
  | undefinedVariable name =>
      rw [never name] at isOfKind
      contradiction
  | _ => rfl

end Failure

namespace Act.Obeys

universe u v

variable {σ : Type u} {α : Type v} {act : Act σ α}

theorem withoutVariables {kind : Failure → Bool} (raises : Obeys (.raising kind) act)
    (never : ∀ name, kind (.undefinedVariable name) = false) :
    Obeys (.raising Failure.namesNoVariable) act :=
  raises.mono (Failure.namesNoVariable_of never)

end Act.Obeys

/-- A host that has nothing: its programs fail, and so do its clones. -/
def bareHost : Host where
  environment := []
  home := none
  programs := fun _ _ store => .ok ⟨.ended (.exited 127), store, .empty, .empty⟩
  finder := fun _ _ => none
  cloner := fun _ store => (.error "no repository", store)
  runtime := .ok ()

end Groundwork
