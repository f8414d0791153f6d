import Groundwork.Json.Printer
import Groundwork.Proofs.Decimal
import Groundwork.Proofs.Json.Exact

namespace Groundwork.Json

/-! Whole numbers and strings read back from their text. -/

/-- What comes behind a value in an indented text. -/
inductive Stops : List Char → Prop
  | nothing : Stops []
  | comma (rest : List Char) : Stops (',' :: rest)
  | line (rest : List Char) : Stops ('\n' :: rest)

variable {rest : List Char}

theorem splitFraction_of_stops (stops : Stops rest) : splitFraction rest = some (none, rest) := by
  cases stops <;> rfl

theorem splitExponent_of_stops (stops : Stops rest) : splitExponent rest = some (none, rest) := by
  cases stops <;> rfl

theorem splitDigits_digits (value : Nat) (stops : Stops rest) :
    splitDigits (Nat.toDigits 10 value ++ rest) = (Nat.toDigits 10 value, rest) := by
  have noDigit : ∀ letter, rest.head? = some letter → letter.isDigit = false := by
    intro letter head
    cases stops with
    | nothing => cases head
    | comma => cases head; rfl
    | line => cases head; rfl
  obtain ⟨taken, left⟩ := Decimal.takeWhile_toDigits value noDigit
  rw [splitDigits, taken, left]

theorem no_leading_zero (value : Nat) :
    ((Nat.toDigits 10 value).isEmpty ||
      ((Nat.toDigits 10 value).head? = some '0' && (Nat.toDigits 10 value).length ≠ 1)) = false := by
  have some : (Nat.toDigits 10 value).isEmpty = false := by
    simp [Nat.toDigits_ne_nil]
  rw [some, Bool.false_or]
  cases value with
  | zero => rfl
  | succ less =>
      have head := Decimal.head?_toDigits (Nat.succ_pos less)
      simp [head]

theorem splitNumber_digits (value : Nat) (stops : Stops rest) :
    splitNumber (Nat.toDigits 10 value ++ rest) =
      some (⟨false, Nat.toDigits 10 value, none, none⟩, rest) := by
  have split := splitDigits_digits value stops
  have zero := no_leading_zero value
  unfold splitNumber
  split
  · next negative unsigned sign =>
      split at sign
      · next after minus =>
          -- The text begins with a digit.
          cases letters : Nat.toDigits 10 value with
          | nil => exact absurd letters Nat.toDigits_ne_nil
          | cons digit others =>
              rw [letters, List.cons_append] at minus
              have isDigit := Nat.isDigit_of_mem_toDigits (b := 10) (n := value) (by decide) (by decide)
                (letters ▸ List.mem_cons_self)
              cases (List.cons.inj minus).1
              cases isDigit
      · cases sign
        simp only [split, zero, splitFraction_of_stops stops, splitExponent_of_stops stops,
          Bool.false_eq_true, ↓reduceIte, Option.bind_eq_bind, Option.bind_some, Option.pure_def]

theorem splitNumber_minus (value : Nat) (stops : Stops rest) :
    splitNumber ('-' :: (Nat.toDigits 10 value ++ rest)) =
      some (⟨true, Nat.toDigits 10 value, none, none⟩, rest) := by
  simp only [splitNumber, splitDigits_digits value stops, no_leading_zero value,
    splitFraction_of_stops stops, splitExponent_of_stops stops, Bool.false_eq_true, ↓reduceIte,
    Option.bind_eq_bind, Option.bind_some, Option.pure_def]

theorem significandOf_eq (digits : List Char) (value : Nat)
    (small : Nat.ofDigitChars 10 digits value < wordLimit) :
    significandOf value digits = (Nat.ofDigitChars 10 digits value, 0) := by
  induction digits generalizing value with
  | nil => rfl
  | cons digit rest ih =>
      rw [Nat.ofDigitChars_cons] at small ⊢
      have next : 10 * value + (digit.toNat - '0'.toNat) < wordLimit := by
        rw [Nat.ofDigitChars_eq_ofDigitChars_zero] at small
        have scaled := Nat.le_mul_of_pos_left (10 * value + (digit.toNat - '0'.toNat))
          (Nat.pow_pos (n := rest.length) (show 0 < 10 by decide))
        omega
      rw [significandOf, if_pos next]
      exact ih _ small

theorem significandOf_digits {value : Nat} (small : value < wordLimit) :
    significandOf 0 (Nat.toDigits 10 value) = (value, 0) := by
  have whole := Nat.ofDigitChars_ten_toDigits (n := value)
  rw [significandOf_eq _ 0 (whole.symm ▸ small), whole]

theorem splitNumber_writeInteger {value : Int} (word : IsWord value) (stops : Stops rest) :
    ∃ number, splitNumber (Decimal.writeInteger value ++ rest) = some (number, rest) ∧
      number.value = some (.integer value) := by
  obtain ⟨low, high⟩ := isWord_iff.mp word
  have limit : wordLimit = 18446744073709551616 := rfl
  cases value with
  | ofNat magnitude =>
      have small : magnitude < wordLimit := by
        rw [Int.ofNat_eq_natCast] at high
        omega
      refine ⟨_, splitNumber_digits magnitude stops, ?_⟩
      simp [NumberText.value, significandOf_digits small]
  | negSucc less =>
      rw [Int.negSucc_eq] at low
      have small : less + 1 < wordLimit := by omega
      refine ⟨_, splitNumber_minus (less + 1) stops, ?_⟩
      have fits : ¬ Nat.pow 2 63 < less + 1 := by
        have power : Nat.pow 2 63 = 9223372036854775808 := rfl
        omega
      simp [NumberText.value, significandOf_digits small, fits, Int.negSucc_eq]

theorem hexValue?_hexDigit {value : Nat} (small : value < 16) :
    hexValue? (hexDigit value) = some value := by
  have all : ∀ value < 16, hexValue? (hexDigit value) = some value := by decide
  exact all value small

theorem readCodePoint_control {code : Nat} (control : code < 0x20) (rest : List Char) :
    readCodePoint ('0' :: '0' :: hexDigit (code / 16) :: hexDigit (code % 16) :: rest) =
      some (Char.ofNat code, rest) := by
  have zero : hexValue? '0' = some 0 := rfl
  have first := hexValue?_hexDigit (show code / 16 < 16 by omega)
  have second := hexValue?_hexDigit (show code % 16 < 16 by omega)
  have whole : 4096 * 0 + 256 * 0 + 16 * (code / 16) + code % 16 = code := by omega
  have high : ¬ (0xd800 ≤ code ∧ code < 0xdc00) := by omega
  have low : ¬ (0xdc00 ≤ code ∧ code < 0xe000) := by omega
  simp only [readCodePoint, readUnit, zero, first, second, whole, high, low, ↓reduceIte,
    Option.bind_eq_bind, Option.bind_some, Option.pure_def]

theorem readString_escapeLetter (fuel : Nat) (pending rest : List Char) (letter : Char) :
    readString (fuel + 1) pending (escapeLetter letter ++ rest) =
      readString fuel (letter :: pending) rest := by
  unfold escapeLetter
  split
  iterate 7 rfl
  next quote backslash _ _ _ _ _ =>
    split
    · next control =>
        simp only [List.cons_append, List.nil_append, readString, readCodePoint_control control,
          Char.ofNat_toNat, Char.reduceEq, ↓reduceIte]
    · next plain =>
        simp only [List.cons_append, List.nil_append, readString]
        rw [if_neg quote, if_neg backslash, if_neg plain]

theorem readString_escaped (letters : List Char) {fuel : Nat} (enough : letters.length < fuel)
    (pending rest : List Char) :
    readString fuel pending (letters.flatMap escapeLetter ++ '"' :: rest) =
      some (String.ofList (pending.reverse ++ letters), rest) := by
  induction letters generalizing fuel pending with
  | nil =>
      cases fuel with
      | zero => cases enough
      | succ fuel => simp [readString]
  | cons letter others ih =>
      cases fuel with
      | zero => cases enough
      | succ fuel =>
          have less : others.length < fuel := Nat.lt_of_succ_lt_succ enough
          rw [List.flatMap_cons, List.append_assoc, readString_escapeLetter, ih less]
          simp

theorem one_le_length_escapeLetter (letter : Char) : 1 ≤ (escapeLetter letter).length := by
  unfold escapeLetter
  split
  iterate 7 exact Nat.le_add_left _ _
  split <;> exact Nat.le_add_left _ _

theorem length_le_flatMap_escapeLetter (letters : List Char) :
    letters.length ≤ (letters.flatMap escapeLetter).length := by
  induction letters with
  | nil => exact Nat.le_refl 0
  | cons letter others ih =>
      have one := one_le_length_escapeLetter letter
      rw [List.flatMap_cons, List.length_append, List.length_cons]
      omega

theorem readString_writeString (text : String) (rest : List Char) :
    ∃ letters, writeString text ++ rest = '"' :: letters ∧
      readString (letters.length + 1) [] letters = some (text, rest) := by
  refine ⟨text.toList.flatMap escapeLetter ++ '"' :: rest, by simp [writeString], ?_⟩
  have shorter := length_le_flatMap_escapeLetter text.toList
  have enough : text.toList.length <
      (text.toList.flatMap escapeLetter ++ '"' :: rest).length + 1 := by
    rw [List.length_append]
    omega
  rw [readString_escaped _ enough, List.reverse_nil, List.nil_append, String.ofList_toList]

end Groundwork.Json
