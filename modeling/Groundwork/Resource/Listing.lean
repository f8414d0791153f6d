import Groundwork.Failure
import Groundwork.Pattern.Match
import Groundwork.Pattern.Reader
import Groundwork.Text.Blank
import Groundwork.Text.Lines

namespace Groundwork.Listing

/-! Names read from the output of a listing command, one name a line.

With a pattern, the name of a line is what the first group of its first match holds.  Blanks around a
name are dropped, and so are lines that give no name.
-/

/-- What picks the name out of a line. -/
abbrev Extraction := String → Option String

def wholeLine : Extraction := some

def nameOf? (extract : Extraction) (line : String) : Option String :=
  match extract line with
  | some found =>
      let name := Text.trim found
      if name.isEmpty then none else some name
  | none => none

def parse (extract : Extraction) (output : String) : List String :=
  (Text.lines output).filterMap (nameOf? extract)

/-- The extraction for an optional pattern, which must be well formed. -/
def extraction (pattern : Option String) : Except Failure Extraction :=
  match pattern with
  | none => .ok wholeLine
  | some text =>
      match (Pattern.read text).bind Matcher.ofPattern with
      | some matcher => .ok matcher.firstGroup?
      | none => .error (.regex "malformed pattern")

end Groundwork.Listing
