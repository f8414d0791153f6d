import Groundwork.Text.Blank
import Groundwork.Text.Category

namespace Groundwork.Text

/-! Quoted text, as it stands in summaries and in the log.

A character is shown as itself when it can be seen on its own.  A backslash and the quote that
closes the text get a backslash; tabs and line ends have short forms; everything else that would be
invisible, or would join the character before it, is written by its code point.
-/

/-- Characters outside the mark categories that still extend the character before them. -/
def otherExtenders : Ranges := Ranges.read
  "9be 9d7 b3e b57 bbe bd7 cc2 cd5-cd6 d3e d57 dcf ddf 1b35 200c 302e-302f ff9e-ff9f 1133e 11357
   114b0 114bd 115af 11930 1d165 1d16e-1d172"

def extendsPrevious (letter : Char) : Bool :=
  match category letter with
  | .nonspacingMark | .enclosingMark => true
  | _ => otherExtenders.contains letter.toNat

def isVisible (letter : Char) : Bool :=
  match category letter with
  | .control | .format | .surrogate | .privateUse | .unassigned => false
  | .lineSeparator | .paragraphSeparator => false
  | .spaceSeparator => letter == ' '
  | _ => true

def standsAlone (letter : Char) : Bool :=
  if letter.toNat < 0x7f then 0x20 ≤ letter.toNat
  else isVisible letter && !extendsPrevious letter

def hexDigits (value : Nat) : List Char :=
  Nat.toDigits 16 value

/-- `alsoQuoted` is a second character that gets a backslash, beside the double quote. -/
def quoteLetter (alsoQuoted : Option Char) (letter : Char) : List Char :=
  match letter with
  | '\x00' => ['\\', '0']
  | '\t' => ['\\', 't']
  | '\r' => ['\\', 'r']
  | '\n' => ['\\', 'n']
  | '\\' => ['\\', '\\']
  | '"' => ['\\', '"']
  | _ =>
      if some letter = alsoQuoted then ['\\', letter]
      else if standsAlone letter then [letter]
      else ['\\', 'u', '\x7b'] ++ hexDigits letter.toNat ++ ['\x7d']

def quoted (text : String) : String :=
  String.ofList ('"' :: text.toList.flatMap (quoteLetter none) ++ ['"'])

/-- A quoted file name also has a backslash before a single quote. -/
def quotedPath (path : String) : String :=
  String.ofList ('"' :: path.toList.flatMap (quoteLetter (some '\'')) ++ ['"'])

/-- A value that may be missing is shown as `Some(…)` or `None`. -/
def shownOption (shown : Option String) : String :=
  match shown with
  | some text => "Some(" ++ text ++ ")"
  | none => "None"

end Groundwork.Text
