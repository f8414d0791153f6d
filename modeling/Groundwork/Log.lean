import Groundwork.Failure

namespace Groundwork

/-! The run log.

A line carries its level and, inside a step, the tag of that step.  Opening a step scope puts a tag
in force and remembers the one before it; closing the scope puts that one back.
-/

inductive Log.Level where
  | error
  | warn
  | info
  | debug
  | trace
  deriving DecidableEq, Repr

structure Log.Tag where
  task : String
  index : Nat
  deriving DecidableEq, Repr

namespace Log

def Level.rank : Level → Nat
  | .error => 0
  | .warn => 1
  | .info => 2
  | .debug => 3
  | .trace => 4

def Level.name : Level → String
  | .error => "ERROR"
  | .warn => "WARN"
  | .info => "INFO"
  | .debug => "DEBUG"
  | .trace => "TRACE"

def Level.all : List Level := [.error, .warn, .info, .debug, .trace]

def Level.ofName? (name : String) : Option Level :=
  Level.all.find? (fun level => level.name = name)

def sameLetters (text other : String) : Bool :=
  text.map Char.toLower == other.map Char.toLower

/-- The level that the debug switch and the debug setting ask for. -/
def Level.ofSettings (debug : Bool) (setting : String) : Level :=
  if sameLetters setting "trace" then .trace
  else if debug || setting == "1" || sameLetters setting "true" then .debug
  else .info

/-- Whether a log kept at the level `limit` holds lines of this level. -/
def Level.within (level limit : Level) : Bool :=
  level.rank ≤ limit.rank

def Level.isDebug (limit : Level) : Bool :=
  Level.within .debug limit

def Tag.shown (tag : Tag) : String :=
  tag.task ++ "#" ++ toString tag.index

def fileName : String := "bminfra.log"

/-- The text of a line, after its time stamp. -/
def line (level : Level) (tag : Option Tag) (text : String) : String :=
  match tag with
  | some tag => s!"[{level.name}] [{tag.shown}] {text}"
  | none => s!"[{level.name}] {text}"

structure Scope where
  previous : Option Tag
  deriving DecidableEq, Repr

def Scope.opened (current : Option Tag) (tag : Tag) : Scope × Option Tag :=
  (⟨current⟩, some tag)

def Scope.closed (scope : Scope) : Option Tag :=
  scope.previous

/-- The tag in force, and the scopes in the order in which they were opened; a scope that has been
closed is gone. -/
structure Scopes where
  current : Option Tag
  held : List (Option Scope)
  deriving DecidableEq, Repr

/-- Scopes are numbered from zero in the order in which they are opened. -/
inductive Scopes.Change where
  | opens (tag : Tag)
  | closes (number : Nat)
  deriving DecidableEq, Repr

/-- Closing a scope again, or one that was never opened, changes nothing. -/
def Scopes.change (scopes : Scopes) : Scopes.Change → Scopes
  | .opens tag =>
      let (scope, current) := Scope.opened scopes.current tag
      ⟨current, scopes.held ++ [some scope]⟩
  | .closes number =>
      match scopes.held[number]? with
      | some (some scope) => ⟨scope.closed, scopes.held.set number none⟩
      | _ => scopes

def Scopes.after (scopes : Scopes) (changes : List Scopes.Change) : Scopes :=
  changes.foldl Scopes.change scopes

end Log

end Groundwork
