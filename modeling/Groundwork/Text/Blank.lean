namespace Groundwork.Text

/-! Blank characters and the trimming that names, numbers and scripts are given before use.

A blank is a character with the Unicode property `White_Space`.  A zero-width space is not one.
-/

def isBlank (letter : Char) : Bool :=
  let code := letter.toNat
  (0x09 ≤ code && code ≤ 0x0d) || code == 0x20 || code == 0x85 || code == 0xa0 || code == 0x1680 ||
    (0x2000 ≤ code && code ≤ 0x200a) || code == 0x2028 || code == 0x2029 || code == 0x202f ||
    code == 0x205f || code == 0x3000

def trimStart (letters : List Char) : List Char :=
  letters.dropWhile isBlank

def trimEnd (letters : List Char) : List Char :=
  (letters.reverse.dropWhile isBlank).reverse

def trimLetters (letters : List Char) : List Char :=
  trimEnd (trimStart letters)

/-- The text without the blanks at its two ends. -/
def trim (text : String) : String :=
  String.ofList (trimLetters text.toList)

@[simp] theorem trimStart_nil : trimStart [] = [] := rfl

@[simp] theorem trimEnd_nil : trimEnd [] = [] := rfl

end Groundwork.Text
