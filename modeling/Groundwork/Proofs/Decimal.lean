import Groundwork.Decimal.Digits

namespace Groundwork.Decimal

/-! Numbers read back from the digits they are written in. -/

variable {value : Nat}

theorem head?_toDigits (positive : 0 < value) : (Nat.toDigits 10 value).head? ≠ some '0' := by
  induction value using Nat.strongRecOn with
  | ind value ih =>
      rw [Nat.toDigits_eq_if (by decide)]
      split
      · next small =>
          have all : ∀ value < 10, 0 < value → [Nat.digitChar value].head? ≠ some '0' := by decide
          exact all value small positive
      · next large =>
          have front : 0 < value / 10 := by omega
          rw [List.head?_append, Option.or_of_isSome (by simp [Nat.toDigits_ne_nil])]
          exact ih (value / 10) (by omega) front

theorem takeWhile_toDigits (value : Nat) {rest : List Char}
    (stops : ∀ letter, rest.head? = some letter → letter.isDigit = false) :
    (Nat.toDigits 10 value ++ rest).takeWhile Char.isDigit = Nat.toDigits 10 value ∧
      (Nat.toDigits 10 value ++ rest).dropWhile Char.isDigit = rest := by
  have all : ∀ digit ∈ Nat.toDigits 10 value, digit.isDigit = true :=
    fun _ => Nat.isDigit_of_mem_toDigits (by decide) (by decide)
  rw [List.takeWhile_append_of_pos all, List.dropWhile_append_of_pos all]
  cases rest with
  | nil => exact ⟨List.append_nil _, rfl⟩
  | cons letter more =>
      have stop := stops letter rfl
      simp [stop]

/-- One digit or more, and nothing else. -/
def AreDigits (letters : List Char) : Prop :=
  letters ≠ [] ∧ ∀ letter ∈ letters, letter.isDigit = true

/-- Digits after an optional sign, and the number that they stand for. -/
inductive Denotes : List Char → Int → Prop
  | unsigned {digits : List Char} (areDigits : AreDigits digits) :
      Denotes digits (Nat.ofDigitChars 10 digits 0)
  | plus {digits : List Char} (areDigits : AreDigits digits) :
      Denotes ('+' :: digits) (Nat.ofDigitChars 10 digits 0)
  | minus {digits : List Char} (areDigits : AreDigits digits) :
      Denotes ('-' :: digits) (-(Nat.ofDigitChars 10 digits 0 : Int))

theorem readDigits?_eq_some_iff {letters : List Char} {value : Nat} :
    readDigits? letters = some value ↔
      AreDigits letters ∧ Nat.ofDigitChars 10 letters 0 = value := by
  unfold readDigits? AreDigits
  rw [← List.all_eq_true]
  cases letters with
  | nil => simp
  | cons letter rest => cases (letter :: rest).all Char.isDigit <;> simp

theorem AreDigits.not_signed {letters : List Char} (areDigits : AreDigits letters) (rest : List Char) :
    letters ≠ '-' :: rest ∧ letters ≠ '+' :: rest := by
  constructor
  · rintro rfl
    exact absurd (areDigits.2 '-' List.mem_cons_self) (by decide)
  · rintro rfl
    exact absurd (areDigits.2 '+' List.mem_cons_self) (by decide)

theorem integer_of_readDigits? {letters : List Char} {number : Int}
    (read : (do let value ← readDigits? letters; return (value : Int)) = some number) :
    AreDigits letters ∧ number = Nat.ofDigitChars 10 letters 0 := by
  obtain ⟨value, digits, same⟩ := Option.bind_eq_some_iff.mp read
  obtain ⟨areDigits, rfl⟩ := readDigits?_eq_some_iff.mp digits
  exact ⟨areDigits, (Option.some.inj same).symm⟩

theorem readInteger?_eq_some_iff {letters : List Char} {value : Int} :
    readInteger? letters = some value ↔
      Denotes letters value ∧ smallest ≤ value ∧ value ≤ largest := by
  constructor
  · intro read
    simp only [readInteger?] at read
    split at read
    · next number signed =>
        split at read
        · next bounds =>
            cases read
            refine ⟨?_, bounds⟩
            split at signed
            · obtain ⟨number, digits, rfl⟩ := Option.map_eq_some_iff.mp signed
              obtain ⟨areDigits, rfl⟩ := integer_of_readDigits? digits
              exact .minus areDigits
            · obtain ⟨number, digits, rfl⟩ := Option.map_eq_some_iff.mp signed
              obtain ⟨areDigits, rfl⟩ := integer_of_readDigits? digits
              exact .plus areDigits
            · obtain ⟨number, digits, rfl⟩ := Option.map_eq_some_iff.mp signed
              obtain ⟨areDigits, rfl⟩ := integer_of_readDigits? digits
              exact .unsigned areDigits
        · contradiction
    · contradiction
  · rintro ⟨denotes, bounds⟩
    cases denotes with
    | minus areDigits | plus areDigits =>
        simp [readInteger?, readDigits?_eq_some_iff.mpr ⟨areDigits, rfl⟩, bounds]
    | unsigned areDigits =>
        have read := readDigits?_eq_some_iff.mpr ⟨areDigits, rfl⟩
        -- No digit is a sign, so that the text is read as a whole.
        simp only [readInteger?]
        split
        · next signed =>
            split at signed
            · exact absurd rfl (areDigits.not_signed _).1
            · exact absurd rfl (areDigits.not_signed _).2
            · rw [read] at signed
              cases signed
              rw [if_pos bounds]
        · next unsigned =>
            split at unsigned
            · exact absurd rfl (areDigits.not_signed _).1
            · exact absurd rfl (areDigits.not_signed _).2
            · rw [read] at unsigned
              contradiction

/-- Digits after an optional plus sign, and the number that they stand for. -/
inductive Counts : List Char → Nat → Prop
  | unsigned {digits : List Char} (areDigits : AreDigits digits) :
      Counts digits (Nat.ofDigitChars 10 digits 0)
  | plus {digits : List Char} (areDigits : AreDigits digits) :
      Counts ('+' :: digits) (Nat.ofDigitChars 10 digits 0)

theorem AreDigits.dropPlus_eq {letters : List Char} (areDigits : AreDigits letters) :
    dropPlus letters = letters := by
  unfold dropPlus
  split
  · exact absurd rfl (areDigits.not_signed _).2
  · rfl

theorem readDigits?_dropPlus_eq_some_iff {letters : List Char} {value : Nat} :
    readDigits? (dropPlus letters) = some value ↔ Counts letters value := by
  rw [readDigits?_eq_some_iff]
  constructor
  · rintro ⟨areDigits, rfl⟩
    unfold dropPlus at areDigits ⊢
    split at areDigits
    · exact .plus areDigits
    · exact .unsigned areDigits
  · intro counts
    cases counts with
    | plus areDigits => exact ⟨areDigits, rfl⟩
    | unsigned areDigits =>
        rw [areDigits.dropPlus_eq]
        exact ⟨areDigits, rfl⟩

/-- However many digits there are, it is their number that is held against the limit. -/
theorem readBelow?_eq_some_iff {limit : Nat} {letters : List Char} {value : Fin limit} :
    readBelow? limit letters = some value ↔ Counts letters value := by
  rw [← readDigits?_dropPlus_eq_some_iff]
  unfold readBelow?
  cases digits : readDigits? (dropPlus letters) with
  | none => simp
  | some number =>
      simp only [Option.dite_none_right_eq_some, Option.some.injEq, Fin.ext_iff]
      exact ⟨fun ⟨_, same⟩ => same, fun same => ⟨same ▸ value.isLt, same⟩⟩

end Groundwork.Decimal
