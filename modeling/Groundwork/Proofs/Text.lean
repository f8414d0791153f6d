import Groundwork.Text.Blank
import Groundwork.Text.Lines

namespace Groundwork.Text

/-! Texts taken apart into lines, and the blanks around a text. -/

/-- Blanks only. -/
def IsBlank (text : String) : Prop :=
  ∀ letter ∈ text.toList, isBlank letter = true

/-- No blank at either end. -/
structure IsTrimmed (text : String) : Prop where
  first : ∀ letter ∈ text.toList.head?, isBlank letter = false
  last : ∀ letter ∈ text.toList.getLast?, isBlank letter = false

/-- `core` is what stands between the blanks at the two ends. -/
def Trims (text core : String) : Prop :=
  ∃ before after, text = before ++ core ++ after ∧ IsBlank before ∧ IsBlank after ∧ IsTrimmed core

theorem isBlank_empty : IsBlank "" :=
  fun _ member => nomatch member

theorem isBlank_return : IsBlank "\r" := by
  intro letter member
  rw [List.mem_singleton.mp member]
  rfl

theorem IsBlank.append {text other : String} (blank : IsBlank text) (more : IsBlank other) :
    IsBlank (text ++ other) := by
  intro letter member
  rw [String.toList_append] at member
  exact (List.mem_append.mp member).elim (blank letter) (more letter)

theorem trimStart_append {before : List Char} (blank : ∀ letter ∈ before, isBlank letter = true)
    (rest : List Char) : trimStart (before ++ rest) = trimStart rest :=
  List.dropWhile_append_of_pos blank

theorem trimStart_eq_self {letters : List Char} (first : ∀ letter ∈ letters.head?, isBlank letter = false) :
    trimStart letters = letters := by
  cases letters with
  | nil => rfl
  | cons letter rest =>
      exact List.dropWhile_cons_of_neg (Bool.eq_false_iff.mp (first letter rfl))

theorem trimEnd_eq (letters : List Char) : trimEnd letters = (trimStart letters.reverse).reverse := rfl

theorem trimEnd_append {after rest : List Char} (blank : ∀ letter ∈ after, isBlank letter = true) :
    trimEnd (rest ++ after) = trimEnd rest := by
  have reversed : ∀ letter ∈ after.reverse, isBlank letter = true :=
    fun letter member => blank letter (List.mem_reverse.mp member)
  rw [trimEnd_eq, List.reverse_append, trimStart_append reversed _, ← trimEnd_eq]

theorem trimEnd_eq_self {letters : List Char}
    (last : ∀ letter ∈ letters.getLast?, isBlank letter = false) : trimEnd letters = letters := by
  rw [trimEnd_eq, trimStart_eq_self (by simpa using last), List.reverse_reverse]

theorem exists_trimStart (letters : List Char) :
    ∃ before, letters = before ++ trimStart letters ∧ (∀ letter ∈ before, isBlank letter = true) ∧
      ∀ letter ∈ (trimStart letters).head?, isBlank letter = false := by
  refine ⟨letters.takeWhile isBlank, List.takeWhile_append_dropWhile.symm,
    List.all_eq_true.mp List.all_takeWhile, fun letter first => ?_⟩
  have stops := List.head?_dropWhile_not isBlank letters
  rw [show (letters.dropWhile isBlank).head? = some letter from first] at stops
  exact stops

theorem exists_trimEnd (letters : List Char) :
    ∃ after, letters = trimEnd letters ++ after ∧ (∀ letter ∈ after, isBlank letter = true) ∧
      ∀ letter ∈ (trimEnd letters).getLast?, isBlank letter = false := by
  obtain ⟨before, split, blank, first⟩ := exists_trimStart letters.reverse
  refine ⟨before.reverse, ?_, fun letter member => blank letter (List.mem_reverse.mp member), ?_⟩
  · rw [trimEnd_eq, ← List.reverse_append, ← split, List.reverse_reverse]
  · rw [trimEnd_eq, List.getLast?_reverse]
    exact first

theorem trim_trims (text : String) : Trims text (trim text) := by
  obtain ⟨before, split, blankBefore, first⟩ := exists_trimStart text.toList
  obtain ⟨after, splitEnd, blankAfter, last⟩ := exists_trimEnd (trimStart text.toList)
  refine ⟨String.ofList before, String.ofList after, String.toList_injective ?_, ?_, ?_, ⟨?_, ?_⟩⟩
  · rw [String.toList_append, String.toList_append, trim, String.toList_ofList, String.toList_ofList,
      String.toList_ofList, trimLetters, List.append_assoc, ← splitEnd, ← split]
  · rwa [IsBlank, String.toList_ofList]
  · rwa [IsBlank, String.toList_ofList]
  · rw [trim, String.toList_ofList, trimLetters]
    intro letter found
    -- What is left at the end begins as the text did before its end was trimmed.
    obtain ⟨rest, same⟩ := List.head?_eq_some_iff.mp found
    rw [splitEnd, same] at first
    exact first letter rfl
  · rwa [trim, String.toList_ofList, trimLetters]

theorem trim_eq_iff {text core : String} : trim text = core ↔ Trims text core := by
  constructor
  · rintro rfl
    exact trim_trims text
  · rintro ⟨before, after, rfl, blankBefore, blankAfter, trimmed⟩
    have letters : (before ++ core ++ after).toList = before.toList ++ (core.toList ++ after.toList) := by
      simp [String.toList_append]
    rw [trim, letters, trimLetters, trimStart_append blankBefore _]
    cases inner : core.toList with
    | nil =>
        have nothing : trimStart after.toList = [] := by
          simpa using trimStart_append blankAfter []
        rw [List.nil_append, nothing, trimEnd_nil, ← inner, String.ofList_toList]
    | cons letter rest =>
        have starts := trimmed.first letter (by rw [inner]; rfl)
        have ends : trimEnd (letter :: rest) = letter :: rest :=
          trimEnd_eq_self (inner ▸ trimmed.last)
        rw [trimStart_eq_self (by rintro _ ⟨⟩; exact starts), trimEnd_append blankAfter, ends, ← inner,
          String.ofList_toList]

theorem trim_append_blank {text after : String} (blank : IsBlank after) :
    trim (text ++ after) = trim text := by
  obtain ⟨before, behind, split, blankBefore, blankBehind, trimmed⟩ := trim_trims text
  refine trim_eq_iff.mpr ⟨before, behind ++ after, ?_, blankBefore, blankBehind.append blank, trimmed⟩
  rw [← String.append_assoc, ← split]

theorem trim_eq_empty_iff {text : String} : trim text = "" ↔ IsBlank text := by
  rw [trim_eq_iff]
  constructor
  · rintro ⟨before, after, rfl, blankBefore, blankAfter, -⟩
    exact (blankBefore.append isBlank_empty).append blankAfter
  · intro blank
    refine ⟨text, "", by simp, blank, isBlank_empty, ⟨?_, ?_⟩⟩ <;> rintro _ ⟨⟩

/-- The lines of a text, each ended by a line feed, with a carriage return before it or without.  The
last one may be ended by the text alone and keeps its carriage return. -/
inductive InLines : String → List String → Prop
  | empty : InLines "" []
  | unended {line : String} (plain : '\n' ∉ line.toList) (nonempty : line ≠ "") : InLines line [line]
  | feed {line rest : String} {lines : List String} (plain : '\n' ∉ line.toList)
      (noReturn : line.toList.getLast? ≠ some '\r') (later : InLines rest lines) :
      InLines (line ++ "\n" ++ rest) (line :: lines)
  | returnFeed {line rest : String} {lines : List String} (plain : '\n' ∉ line.toList)
      (later : InLines rest lines) : InLines (line ++ "\r\n" ++ rest) (line :: lines)

theorem dropCarriageReturn_append (line : List Char) : dropCarriageReturn (line ++ ['\r']) = line := by
  simp [dropCarriageReturn]

theorem dropCarriageReturn_eq_self {line : List Char} (noReturn : line.getLast? ≠ some '\r') :
    dropCarriageReturn line = line := by
  unfold dropCarriageReturn
  split
  · next shorter reversed =>
      rw [← List.head?_reverse, reversed] at noReturn
      exact absurd rfl noReturn
  · rfl

theorem dropCarriageReturn_cases (line : List Char) :
    (∃ shorter, line = shorter ++ ['\r'] ∧ dropCarriageReturn line = shorter) ∨
      dropCarriageReturn line = line := by
  by_cases returned : line.getLast? = some '\r'
  · obtain ⟨shorter, rfl⟩ := List.getLast?_eq_some_iff.mp returned
    exact .inl ⟨shorter, rfl, dropCarriageReturn_append shorter⟩
  · exact .inr (dropCarriageReturn_eq_self returned)

theorem trim_dropCarriageReturn (line : String) :
    trim (String.ofList (dropCarriageReturn line.toList)) = trim line := by
  rcases dropCarriageReturn_cases line.toList with ⟨shorter, split, same⟩ | same
  · have whole : line = String.ofList shorter ++ "\r" :=
      String.toList_injective (by simp [split, String.toList_append])
    rw [same, whole, trim_append_blank isBlank_return]
  · rw [same, String.ofList_toList]

/-- What has been read of a line stays pending up to the next line feed. -/
theorem linesFrom_append {line : List Char} (plain : '\n' ∉ line) (pending rest : List Char) :
    linesFrom pending (line ++ rest) = linesFrom (line.reverse ++ pending) rest := by
  induction line generalizing pending with
  | nil => rfl
  | cons letter line ih =>
      have other : letter ≠ '\n' := fun same => plain (same ▸ List.mem_cons_self)
      rw [List.cons_append, linesFrom, ih fun member => plain (List.mem_cons_of_mem _ member)]
      · simp
      · exact other

theorem linesFrom_feed (pending rest : List Char) :
    linesFrom pending ('\n' :: rest) = dropCarriageReturn pending.reverse :: linesFrom [] rest := rfl

theorem linesFrom_append_feed (pending letters rest : List Char) :
    linesFrom pending (letters ++ '\n' :: rest) =
      linesFrom pending (letters ++ ['\n']) ++ linesFrom [] rest := by
  induction letters generalizing pending with
  | nil => rfl
  | cons letter letters ih =>
      by_cases feed : letter = '\n'
      · rw [feed, List.cons_append, List.cons_append, linesFrom_feed, linesFrom_feed, ih,
          List.cons_append]
      · rw [List.cons_append, List.cons_append, linesFrom, linesFrom, ih] <;> exact feed

theorem lines_append_feed (text rest : String) :
    lines (text ++ "\n" ++ rest) = lines (text ++ "\n") ++ lines rest := by
  have letters : (text ++ "\n" ++ rest).toList = text.toList ++ '\n' :: rest.toList := by
    simp [String.toList_append]
  have ended : (text ++ "\n").toList = text.toList ++ ['\n'] := by simp [String.toList_append]
  rw [lines, lines, lines, letters, ended, linesFrom_append_feed, List.map_append]

theorem lines_ended {line : String} (plain : '\n' ∉ line.toList) (rest : String) :
    lines (line ++ "\n" ++ rest) =
      String.ofList (dropCarriageReturn line.toList) :: lines rest := by
  have ended : (line ++ "\n").toList = line.toList ++ ['\n'] := by simp [String.toList_append]
  have alone : lines (line ++ "\n") = [String.ofList (dropCarriageReturn line.toList)] := by
    rw [lines, ended, linesFrom_append plain, List.append_nil, linesFrom_feed, List.reverse_reverse]
    rfl
  rw [lines_append_feed, alone, List.singleton_append]

theorem lines_unended {line : String} (plain : '\n' ∉ line.toList) (nonempty : line ≠ "") :
    lines line = [line] := by
  have letters : line.toList ≠ [] := fun empty => nonempty (String.toList_eq_nil_iff.mp empty)
  have whole := linesFrom_append plain [] []
  rw [List.append_nil, List.append_nil, linesFrom, List.reverse_reverse, if_neg (by simpa using letters)]
    at whole
  rw [lines, whole, List.map_singleton, String.ofList_toList]

theorem inLines_linesFrom (pending letters : List Char) (plain : '\n' ∉ pending) :
    InLines (String.ofList (pending.reverse ++ letters))
      ((linesFrom pending letters).map String.ofList) := by
  induction letters generalizing pending with
  | nil =>
      cases pending with
      | nil => exact .empty
      | cons letter pending =>
          rw [List.append_nil]
          exact .unended (by simpa [and_comm] using plain) (by simp)
  | cons letter rest ih =>
      have later := ih [] List.not_mem_nil
      rw [List.reverse_nil, List.nil_append] at later
      by_cases feed : letter = '\n'
      · subst feed
        rw [linesFrom_feed, List.map_cons]
        by_cases returned : pending.reverse.getLast? = some '\r'
        · obtain ⟨line, split⟩ := List.getLast?_eq_some_iff.mp returned
          have outside : '\n' ∉ line := fun member =>
            plain (List.mem_reverse.mp (split ▸ List.mem_append_left _ member))
          have text : String.ofList (pending.reverse ++ '\n' :: rest) =
              String.ofList line ++ "\r\n" ++ String.ofList rest :=
            String.toList_injective (by simp [split, String.toList_append])
          rw [text, split, dropCarriageReturn_append]
          exact .returnFeed (by rwa [String.toList_ofList]) later
        · have text : String.ofList (pending.reverse ++ '\n' :: rest) =
              String.ofList pending.reverse ++ "\n" ++ String.ofList rest :=
            String.toList_injective (by simp [String.toList_append])
          rw [text, dropCarriageReturn_eq_self returned]
          exact .feed (by simpa using plain) (by rwa [String.toList_ofList]) later
      · have longer : '\n' ∉ letter :: pending := by
          intro member
          rcases List.mem_cons.mp member with rfl | earlier
          · exact feed rfl
          · exact plain earlier
        have passed := ih _ longer
        rw [List.reverse_cons, List.append_assoc, List.singleton_append] at passed
        rwa [linesFrom]
        exact feed

/-- A text is made up of lines in one way only. -/
theorem lines_eq_iff {text : String} {found : List String} :
    lines text = found ↔ InLines text found := by
  constructor
  · rintro rfl
    have whole := inLines_linesFrom [] text.toList List.not_mem_nil
    rwa [List.reverse_nil, List.nil_append, String.ofList_toList] at whole
  · intro taken
    induction taken with
    | empty => rfl
    | unended plain nonempty => exact lines_unended plain nonempty
    | feed plain noReturn later ih =>
        rw [lines_ended plain, dropCarriageReturn_eq_self noReturn, String.ofList_toList, ih]
    | @returnFeed line rest lines plain later ih =>
        have inner : line ++ "\r\n" ++ rest = line ++ "\r" ++ "\n" ++ rest :=
          String.toList_injective (by simp [String.toList_append])
        have letters : (line ++ "\r").toList = line.toList ++ ['\r'] := by
          simp [String.toList_append]
        have outside : '\n' ∉ (line ++ "\r").toList := by
          simpa [letters] using plain
        rw [inner, lines_ended outside, letters, dropCarriageReturn_append, String.ofList_toList, ih]

end Groundwork.Text
