import Groundwork.Text.Lines

namespace Groundwork.Path

/-! Paths, kept as the text they were given as.

Joining never tidies a path, so a message names a path as the operator wrote it.  Only `parent?` looks
at components: it passes over doubled slashes and inner dots.
-/

def isAbsolute (path : String) : Bool :=
  path.toList.head? = some '/'

def endsInSlash (path : String) : Bool :=
  path.toList.getLast? = some '/'

/-- An absolute path replaces the base; an empty one leaves the base with a slash behind it. -/
def join (base path : String) : String :=
  if isAbsolute path then path
  else if base.isEmpty || endsInSlash base then base ++ path
  else base ++ "/" ++ path

/-- The parts of a path between its slashes, without empty ones. -/
def parts (path : String) : List String :=
  ((Text.splitLetters '/' path.toList).filter (fun part => !part.isEmpty)).map String.ofList

/-- The parts of a path that lead anywhere. -/
def components (path : String) : List String :=
  (parts path).filter (fun part => part ≠ ".")

/-- Drops slashes and dot components at the end of a reversed path; a dot at its very start stays. -/
def dropIdle : List Char → List Char
  | [] => []
  | ['/'] => ['/']
  | '/' :: rest => dropIdle rest
  | '.' :: '/' :: rest => dropIdle ('/' :: rest)
  | letters => letters

/-- The path without its last component; nothing for the root and for the empty path. -/
def parent? (path : String) : Option String :=
  match dropIdle path.toList.reverse with
  | [] => none
  | ['/'] => none
  | letters =>
      let remaining := letters.dropWhile (· != '/')
      some (String.ofList (dropIdle remaining).reverse)

/-- The parents of a path, the nearest first. -/
def ancestorsWithin : Nat → String → List String
  | 0, _ => []
  | fuel + 1, path =>
      match parent? path with
      | some parent => parent :: ancestorsWithin fuel parent
      | none => []

/-- A parent is shorter than its path, so a path has no more parents than letters. -/
def ancestors (path : String) : List String :=
  ancestorsWithin path.length path

/-- The directory that a path names something in, unless the path is a bare name. -/
def directory? (path : String) : Option String :=
  match parent? path with
  | some parent => if parent.isEmpty then none else some parent
  | none => none

/-- A leading `~/` stands for the home directory. -/
def expandHome (home : Option String) (path : String) : String :=
  match path.toList, home with
  | '~' :: '/' :: rest, some home => join home (String.ofList rest)
  | _, _ => path

theorem isAbsolute_join (base path : String) (absolute : isAbsolute path = true) :
    join base path = path := by
  simp [join, absolute]

end Groundwork.Path
