namespace Groundwork.Rehearsal

/-! Shell scripts as trees. -/

/-- How the value of a variable is changed where it is used. -/
inductive Change where
  /-- Another word when the variable is unset, or also when it is empty. -/
  | otherwise (alsoEmpty : Bool)
  | assign (alsoEmpty : Bool)
  /-- Another word when it is set. -/
  | instead (alsoEmpty : Bool)
  | demand (alsoEmpty : Bool)
  | dropSuffix (longest : Bool)
  | dropStart (longest : Bool)
  deriving DecidableEq, Repr

inductive RedirectionKind where
  | read
  | write
  | append
  /-- Another descriptor, or none. -/
  | copy
  /-- Text that stands in the script. -/
  | here
  deriving DecidableEq, Repr

mutual

/-- Part of a word; a quoted part is never split. -/
inductive Piece where
  | literal (text : String) (quoted : Bool)
  | variable (name : String) (quoted : Bool)
  | changed (name : String) (change : Change) (word : List Piece) (quoted : Bool)
  | size (name : String) (quoted : Bool)
  | output (script : List Command) (quoted : Bool)
  | arithmetic (word : List Piece) (quoted : Bool)
  /-- A variable between braces that is none; it only shows when the word is used. -/
  | malformed

/-- The line is that on which the command begins. -/
inductive Redirection where
  | mk (line : Nat) (descriptor : Nat) (kind : RedirectionKind) (word : List Piece)

inductive Command where
  | simple (line : Nat) (assignments : List (String × List Piece)) (words : List (List Piece))
      (redirections : List Redirection)
  | pipeline (negated : Bool) (stages : List Command)
  | both (first second : Command)
  | either (first second : Command)
  | background (command : Command)
  | group (body : List Command) (redirections : List Redirection)
  | subshell (body : List Command) (redirections : List Redirection)
  | conditional (branches : List (List Command × List Command)) (otherwise : List Command)
      (redirections : List Redirection)
  | loop (onSuccess : Bool) (condition body : List Command) (redirections : List Redirection)
  | each (name : String) (words : Option (List (List Piece))) (body : List Command)
      (redirections : List Redirection)
  | cases (word : List Piece) (branches : List (List (List Piece) × List Command))
      (redirections : List Redirection)
  | definition (name : String) (body : Command)

end

abbrev Word := List Piece

instance : Inhabited Piece := ⟨.literal "" true⟩

instance : Inhabited Command := ⟨.group [] []⟩

/-- A script as far as it could be read: the commands of each complete line, and what is wrong with
the line after them. -/
structure Script where
  lines : List (List Command)
  fault : Option (Nat × String)

end Groundwork.Rehearsal
