import Groundwork.Log

namespace Groundwork

/-! Operations that can fail, change a state and say things on the way.

The state reached and what was said outlive a failure: a failing operation stops where it is, and
undoes nothing by itself.
-/

/-- What an operation says while it works: a line for the log, or output of a child process. -/
inductive Note where
  | logged (level : Log.Level) (text : String)
  | printed (bytes : ByteArray)
  | complained (bytes : ByteArray)

structure Act.Result (σ : Type u) (α : Type v) where
  value : Except Failure α
  state : σ
  notes : List Note

/-- An operation on a state: the state and the notes outlive a failure. -/
def Act (σ : Type u) (α : Type v) := σ → Act.Result σ α

namespace Act

variable {σ : Type u} {α β : Type v}

def done (value : α) : Act σ α :=
  fun state => ⟨.ok value, state, []⟩

def fail (failure : Failure) : Act σ α :=
  fun state => ⟨.error failure, state, []⟩

def andThen (first : Act σ α) (next : α → Act σ β) : Act σ β :=
  fun state =>
    let result := first state
    match result.value with
    | .error failure => ⟨.error failure, result.state, result.notes⟩
    | .ok value =>
        let later := next value result.state
        ⟨later.value, later.state, result.notes ++ later.notes⟩

instance : Monad (Act σ) where
  pure := done
  bind := andThen

instance : LawfulMonad (Act σ) := by
  refine LawfulMonad.mk' _ (fun act => ?_) (fun value next => ?_) (fun act next last => ?_)
  · funext state
    change act.andThen done state = act state
    rcases result : act state with ⟨failure | value, between, notes⟩ <;> simp [andThen, done, result]
  · funext state
    simp [bind, pure, andThen, done]
  · funext state
    change (act.andThen next).andThen last state =
      act.andThen (fun value => (next value).andThen last) state
    rcases first : act state with ⟨failure | value, between, notes⟩
    · simp [andThen, first]
    · rcases second : next value between with ⟨failure | value, later, more⟩ <;>
        simp [andThen, first, second]

instance : MonadExceptOf Failure (Act σ) where
  throw := fail
  tryCatch act handler := fun state =>
    let result := act state
    match result.value with
    | .ok _ => result
    | .error failure =>
        let later := handler failure result.state
        ⟨later.value, later.state, result.notes ++ later.notes⟩

def note (note : Note) : Act σ PUnit :=
  fun state => ⟨.ok ⟨⟩, state, [note]⟩

def log (level : Log.Level) (text : String) : Act σ PUnit :=
  note (.logged level text)

def ofExcept (value : Except Failure α) : Act σ α :=
  fun state => ⟨value, state, []⟩

def get : Act σ σ :=
  fun state => ⟨.ok state, state, []⟩

def set (state : σ) : Act σ PUnit :=
  fun _ => ⟨.ok ⟨⟩, state, []⟩

def read (look : σ → α) : Act σ α :=
  fun state => ⟨.ok (look state), state, []⟩

/-- The outcome of an act in place of its failure. -/
def attempt (act : Act σ α) : Act σ (Except Failure α) :=
  fun state =>
    let result := act state
    ⟨.ok result.value, result.state, result.notes⟩

end Act

end Groundwork
