import Groundwork.Path

namespace Groundwork

/-! Joined paths by their parts. -/

namespace Text

variable {separator : Char}

theorem splitLetters_append (before after : List Char) :
    splitLetters separator (before ++ separator :: after) =
      splitLetters separator before ++ splitLetters separator after := by
  have behind : splitLetters separator (separator :: after) =
      [] :: splitLetters separator after := by
    rw [splitLetters]
    split
    · next empty => exact absurd empty (splitLetters_ne_nil separator after)
    · next part parts same => simp [same]
  induction before with
  | nil => exact behind
  | cons letter rest ih =>
      rw [List.cons_append, splitLetters, splitLetters, ih]
      cases parts : splitLetters separator rest with
      | nil => exact absurd parts (splitLetters_ne_nil separator rest)
      | cons part parts =>
          simp only [List.cons_append]
          split <;> rfl

end Text

namespace Path

/-- The same path, but for doubled slashes and inner dots. -/
def Same (path other : String) : Prop :=
  isAbsolute path = isAbsolute other ∧ components path = components other ∧
    (isAbsolute path = false →
      ((parts path).head? = some "." ↔ (parts other).head? = some "."))

instance (path other : String) : Decidable (Same path other) :=
  inferInstanceAs (Decidable (_ ∧ _ ∧ (_ → _)))

theorem parts_append_slash (path other : String) :
    parts (path ++ "/" ++ other) = parts path ++ parts other := by
  have letters : (path ++ "/" ++ other).toList = path.toList ++ '/' :: other.toList := by
    simp [String.toList_append]
  rw [parts, letters, Text.splitLetters_append, List.filter_append, List.map_append]
  rfl

theorem parts_empty : parts "" = [] := rfl

theorem exists_of_endsInSlash {base : String} (ends : endsInSlash base = true) :
    ∃ start, base = start ++ "/" := by
  obtain ⟨start, split⟩ := List.getLast?_eq_some_iff.mp (of_decide_eq_true ends)
  refine ⟨String.ofList start, String.toList_injective ?_⟩
  rw [split, String.toList_append, String.toList_ofList]
  rfl

theorem parts_slash (start : String) : parts (start ++ "/") = parts start := by
  have joined := parts_append_slash start ""
  rwa [String.append_empty, parts_empty, List.append_nil] at joined

theorem parts_join {base path : String} (relative : isAbsolute path = false) :
    parts (join base path) = parts base ++ parts path := by
  unfold join
  rw [relative]
  simp only [Bool.false_eq_true, ↓reduceIte]
  split
  · next bare =>
      rcases Bool.or_eq_true _ _ ▸ bare with empty | ends
      · rw [String.isEmpty_iff.mp empty, String.empty_append, parts_empty, List.nil_append]
      · obtain ⟨start, rfl⟩ := exists_of_endsInSlash ends
        rw [parts_append_slash, parts_slash]
  · exact parts_append_slash base path

theorem isAbsolute_append {path : String} (nonempty : path ≠ "") (other : String) :
    isAbsolute (path ++ other) = isAbsolute path := by
  have letters : path.toList ≠ [] := fun none => nonempty (String.toList_eq_nil_iff.mp none)
  unfold isAbsolute
  rw [String.toList_append, List.head?_append]
  cases start : path.toList with
  | nil => exact absurd start letters
  | cons letter rest => rfl

theorem isAbsolute_join_eq {base : String} (nonempty : base ≠ "") (path : String) :
    isAbsolute (join base path) = (isAbsolute base || isAbsolute path) := by
  unfold join
  cases absolute : isAbsolute path with
  | true => simp [absolute]
  | false =>
      simp only [Bool.false_eq_true, ↓reduceIte, Bool.or_false]
      split
      · exact isAbsolute_append nonempty path
      · rw [String.append_assoc]
        exact isAbsolute_append nonempty _

theorem size_le_join (base path : String) : path.utf8ByteSize ≤ (join base path).utf8ByteSize := by
  unfold join
  split
  · exact Nat.le_refl _
  · split <;> simp only [String.utf8ByteSize_append] <;> omega

theorem join_ne_empty {base : String} (nonempty : base ≠ "") (path : String) :
    join base path ≠ "" := by
  intro empty
  have nothing := congrArg String.toList empty
  have letters : base.toList ≠ [] := fun none => nonempty (String.toList_eq_nil_iff.mp none)
  unfold join at nothing
  split at nothing
  · next absolute =>
      rw [isAbsolute, nothing] at absolute
      contradiction
  · split at nothing
    · simp [String.toList_append, nonempty] at nothing
    · simp [String.toList_append, nonempty] at nothing

theorem Same.of_parts {path other : String} (start : isAbsolute path = isAbsolute other)
    (same : parts path = parts other) : Same path other :=
  ⟨start, congrArg (List.filter _) same, fun _ => by rw [same]⟩

theorem Same.symm {path other : String} (same : Same path other) : Same other path :=
  ⟨same.1.symm, same.2.1.symm, fun relative => (same.2.2 (same.1.trans relative)).symm⟩

theorem Same.trans {path between other : String} (first : Same path between)
    (second : Same between other) : Same path other :=
  ⟨first.1.trans second.1, first.2.1.trans second.2.1, fun relative =>
    (first.2.2 relative).trans (second.2.2 (first.1.symm.trans relative))⟩

theorem same_slash_join {base path : String} (nonempty : base ≠ "")
    (relative : isAbsolute path = false) : Same (base ++ "/" ++ path) (join base path) := by
  refine .of_parts ?_ ?_
  · rw [String.append_assoc, isAbsolute_append nonempty, isAbsolute_join_eq nonempty, relative,
      Bool.or_false]
  · rw [parts_append_slash, parts_join relative]

/-- Joining a relative path that begins with the base already leaves it the same only where the base
leads nowhere. -/
theorem same_join_self_iff {base path : String} (baseRelative : isAbsolute base = false)
    (nonempty : base ≠ "") (relative : isAbsolute path = false)
    (begins : parts base <+: parts path) :
    Same (join base path) path ↔ components base = [] := by
  have twice : parts (join base path) = parts base ++ parts path := parts_join relative
  have longer : components (join base path) = components base ++ components path := by
    rw [components, twice, List.filter_append]
    rfl
  rw [Same, longer, List.append_left_eq_self]
  refine ⟨fun same => same.2.1, fun nowhere => ⟨?_, nowhere, fun _ => ?_⟩⟩
  · rw [isAbsolute_join_eq nonempty, baseRelative, Bool.false_or]
  -- Both begin with the base, so a dot stands at the start of both or of none.
  · obtain ⟨rest, whole⟩ := begins
    rw [twice, ← whole]
    cases parts base with
    | nil => rfl
    | cons first others => rfl

/-- A path below an inner one that starts at the base is joined onto the base once more, unless that
has made it absolute or the base leads nowhere. -/
theorem same_join_join_iff {base inner path : String} (nonempty : base ≠ "")
    (relative : isAbsolute path = false) :
    Same (join base (join base inner ++ "/" ++ path)) (join (join base inner) path) ↔
      isAbsolute base = true ∨ isAbsolute inner = true ∨ components base = [] := by
  have innerNonempty : join base inner ≠ "" := join_ne_empty nonempty inner
  have below := same_slash_join innerNonempty relative
  have start : isAbsolute (join base inner ++ "/" ++ path) =
      (isAbsolute base || isAbsolute inner) := by
    rw [String.append_assoc, isAbsolute_append innerNonempty, isAbsolute_join_eq nonempty]
  cases absolute : isAbsolute base || isAbsolute inner with
  | true =>
      -- An absolute path throws the base away, so nothing is joined twice.
      have kept := isAbsolute_join base _ (start.trans absolute)
      rw [kept]
      exact ⟨fun _ => ((Bool.or_eq_true _ _).mp absolute).imp_right .inl, fun _ => below⟩
  | false =>
      obtain ⟨baseRelative, innerRelative⟩ := Bool.or_eq_false_iff.mp absolute
      have begins : parts base <+: parts (join base inner ++ "/" ++ path) := by
        rw [parts_append_slash, parts_join innerRelative, List.append_assoc]
        exact List.prefix_append _ _
      have twice := same_join_self_iff baseRelative nonempty (start.trans absolute) begins
      simp only [baseRelative, innerRelative, Bool.false_eq_true, false_or]
      rw [← twice]
      exact ⟨fun same => same.trans below.symm, fun same => same.trans below⟩

theorem dropIdle_suffix (letters : List Char) : dropIdle letters <:+ letters := by
  fun_induction dropIdle letters with
  | case1 => exact List.suffix_rfl
  | case2 => exact List.suffix_rfl
  | case3 rest _ ih => exact ih.trans (List.suffix_cons _ _)
  | case4 rest ih => exact ih.trans (List.suffix_cons _ _)
  | case5 => exact List.suffix_rfl

theorem parent?_prefix {path parent : String} (found : parent? path = some parent) :
    parent.toList <+: path.toList := by
  unfold parent? at found
  split at found
  · contradiction
  · contradiction
  · next letters kept _ =>
      cases found
      have start : dropIdle ((dropIdle path.toList.reverse).dropWhile (· != '/')) <:+
          path.toList.reverse :=
        (dropIdle_suffix _).trans ((List.dropWhile_suffix _).trans (dropIdle_suffix _))
      have turned := List.reverse_prefix.mpr start
      rwa [List.reverse_reverse, ← String.toList_ofList (l := List.reverse _)] at turned

theorem parent?_isAbsolute {path parent : String} (found : parent? path = some parent)
    (proper : parent ≠ "") : isAbsolute parent = isAbsolute path := by
  obtain ⟨rest, whole⟩ := parent?_prefix found
  have letters : path = parent ++ String.ofList rest :=
    String.toList_injective (by rw [String.toList_append, String.toList_ofList, whole])
  rw [letters, isAbsolute_append proper]

theorem directory?_isAbsolute {path directory : String} (found : directory? path = some directory) :
    directory ≠ "" ∧ isAbsolute directory = isAbsolute path := by
  unfold directory? at found
  split at found
  · next parent beside =>
      split at found
      · contradiction
      · next proper =>
          cases found
          have nonempty : directory ≠ "" := fun empty => proper (empty ▸ rfl)
          exact ⟨nonempty, parent?_isAbsolute beside nonempty⟩
  · contradiction

theorem parts_of_name {letters : List Char} (nonempty : letters ≠ [])
    (plain : ∀ letter ∈ letters, letter ≠ '/') :
    parts (String.ofList letters) = [String.ofList letters] := by
  have whole : Text.splitLetters '/' letters = [letters] := by
    clear nonempty
    induction letters with
    | nil => rfl
    | cons letter rest ih =>
        have different : (letter == '/') = false := by simpa using plain letter List.mem_cons_self
        rw [Text.splitLetters, ih fun other member => plain other (List.mem_cons_of_mem _ member)]
        simp [different]
  simp [parts, whole, nonempty]

theorem parts_turned_slash (letters : List Char) :
    parts (String.ofList ('/' :: letters).reverse) = parts (String.ofList letters.reverse) := by
  have text : String.ofList ('/' :: letters).reverse = String.ofList letters.reverse ++ "/" := by
    rw [List.reverse_cons, String.ofList_append]
  rw [text, parts_slash]

/-- Only dots are dropped from the end of a path. -/
theorem parts_dropIdle (letters : List Char) :
    ∃ dots, (∀ name ∈ dots, name = ".") ∧
      parts (String.ofList letters.reverse) =
        parts (String.ofList (dropIdle letters).reverse) ++ dots := by
  fun_induction dropIdle letters with
  | case1 => exact ⟨[], by simp, by simp⟩
  | case2 => exact ⟨[], by simp, by simp⟩
  | case3 rest _ ih => rwa [parts_turned_slash]
  | case4 rest ih =>
      obtain ⟨dots, idle, split⟩ := ih
      rw [parts_turned_slash] at split
      have text : String.ofList ('.' :: '/' :: rest).reverse =
          String.ofList rest.reverse ++ "/" ++ "." := by
        simp only [List.reverse_cons, String.ofList_append]
      refine ⟨dots ++ ["."], by simpa [or_imp, forall_and] using idle, ?_⟩
      rw [text, parts_append_slash, split, List.append_assoc]
      rfl
  | case5 => exact ⟨[], by simp, by simp⟩

/-- What is left ends neither in a slash nor in a dot component. -/
theorem dropIdle_cases (letters : List Char) :
    dropIdle letters = [] ∨ dropIdle letters = ['/'] ∨
      ∃ letter rest, dropIdle letters = letter :: rest ∧ letter ≠ '/' ∧
        (letter = '.' → ∀ tail, rest ≠ '/' :: tail) := by
  fun_induction dropIdle letters with
  | case1 => exact .inl rfl
  | case2 => exact .inr (.inl rfl)
  | case3 rest _ ih => exact ih
  | case4 rest ih => exact ih
  | case5 letters notNil notRoot notSlash notDot =>
      cases letters with
      | nil => exact absurd rfl notNil
      | cons letter rest =>
          refine .inr (.inr ⟨letter, rest, rfl, ?_, ?_⟩)
          · rintro rfl
            exact notSlash rest rfl
          · rintro rfl tail rfl
            exact notDot tail rfl

theorem dropIdle_ne_nil {letters : List Char} (nonempty : letters ≠ []) : dropIdle letters ≠ [] := by
  fun_induction dropIdle letters with
  | case1 => exact nonempty
  | case2 => exact nonempty
  | case3 rest more ih => exact ih fun none => more none
  | case4 rest ih => exact ih (by simp)
  | case5 => exact nonempty

theorem dropWhile_slash (letters : List Char) :
    letters.dropWhile (· != '/') = [] ∨ ∃ rest, letters.dropWhile (· != '/') = '/' :: rest := by
  induction letters with
  | nil => exact .inl rfl
  | cons letter rest ih =>
      by_cases slash : letter = '/'
      · exact .inr ⟨rest, by simp [slash]⟩
      · simpa [slash] using ih

/-- A path that has a parent, turned round and cut behind its last name. -/
theorem exists_last_of_parent? {path parent : String} (found : parent? path = some parent) :
    ∃ last remaining, dropIdle path.toList.reverse = last ++ remaining ∧ last ≠ [] ∧
      (∀ letter ∈ last, letter ≠ '/') ∧ (remaining ≠ [] → last ≠ ['.']) ∧
      (remaining = [] ∨ ∃ rest, remaining = '/' :: rest) ∧
      parent = String.ofList (dropIdle remaining).reverse := by
  rcases dropIdle_cases path.toList.reverse with none | root | ⟨letter, rest, kept, name, notDot⟩
  · simp [parent?, none] at found
  · simp [parent?, root] at found
  · have proper : (letter != '/') = true := by simpa using name
    have cut := List.takeWhile_append_dropWhile (p := (· != '/')) (l := rest)
    have drops : (letter :: rest).dropWhile (· != '/') = rest.dropWhile (· != '/') := by
      simp [proper]
    refine ⟨letter :: rest.takeWhile (· != '/'), rest.dropWhile (· != '/'), ?_, by simp, ?_, ?_,
      dropWhile_slash rest, ?_⟩
    · rw [kept, List.cons_append, cut]
    · intro other member
      rcases List.mem_cons.mp member with rfl | later
      · exact name
      · simpa using List.all_eq_true.mp List.all_takeWhile other later
    · intro behind dot
      obtain ⟨isDot, short⟩ := List.cons.inj dot
      rcases dropWhile_slash rest with none | ⟨tail, slash⟩
      · exact behind none
      · rw [short, slash, List.nil_append] at cut
        exact notDot isDot tail cut.symm
    · unfold parent? at found
      rw [kept] at found
      split at found
      · cases found
      · cases found
      · rw [← drops]
        exact (Option.some.inj found).symm

theorem parts_of_parent {path parent : String} (found : parent? path = some parent)
    (proper : parent ≠ "") :
    ∃ dots name idle, parts path = parts parent ++ (dots ++ name :: idle) ∧ name ≠ "." ∧
      (∀ dot ∈ dots, dot = ".") ∧ ∀ dot ∈ idle, dot = "." := by
  obtain ⟨last, remaining, cut, nonempty, plain, notDot, start, rfl⟩ := exists_last_of_parent? found
  obtain ⟨idle, idleDots, whole⟩ := parts_dropIdle path.toList.reverse
  obtain ⟨dots, dotsDots, upper⟩ := parts_dropIdle remaining
  rw [List.reverse_reverse, String.ofList_toList, cut] at whole
  rcases start with rfl | ⟨rest, rfl⟩
  · exact absurd rfl proper
  · have text : String.ofList (last ++ '/' :: rest).reverse =
        String.ofList rest.reverse ++ "/" ++ String.ofList last.reverse := by
      rw [List.reverse_append, List.reverse_cons, String.ofList_append, String.ofList_append]
    have single := parts_of_name (List.reverse_ne_nil_iff.mpr nonempty) (by simpa using plain)
    rw [parts_turned_slash] at upper
    refine ⟨dots, String.ofList last.reverse, idle, ?_, ?_, dotsDots, idleDots⟩
    · rw [whole, text, parts_append_slash, upper, single]
      simp
    · intro dot
      have letters := congrArg (List.reverse ∘ String.toList) dot
      exact notDot (by simp) (by simpa using letters)

/-- The last name of the path is the one that goes up. -/
def endsUp (path : String) : Bool :=
  (components path).getLast? = some ".."

theorem endsUp_iff {path name : String} {front idle : List String}
    (whole : parts path = front ++ name :: idle) (notDot : name ≠ ".")
    (dots : ∀ dot ∈ idle, dot = ".") : endsUp path = true ↔ name = ".." := by
  have nothing : idle.filter (fun part => !decide (part = ".")) = [] :=
    List.filter_eq_nil_iff.mpr fun dot member => by simp [dots dot member]
  simp [endsUp, components, whole, notDot, nothing]

theorem parts_of_bare {path : String} (found : parent? path = some "") :
    isAbsolute path = false ∧ ∃ name idle, parts path = name :: idle ∧ ∀ dot ∈ idle, dot = "." := by
  obtain ⟨last, remaining, cut, nonempty, plain, -, start, empty⟩ := exists_last_of_parent? found
  have nothing : remaining = [] := by
    have letters : (dropIdle remaining).reverse = [] := String.ofList_injective empty.symm
    exact Classical.byContradiction fun some =>
      dropIdle_ne_nil some (List.reverse_eq_nil_iff.mp letters)
  rw [nothing, List.append_nil] at cut
  constructor
  · obtain ⟨front, whole⟩ := dropIdle_suffix path.toList.reverse
    have turned : path.toList = last.reverse ++ front.reverse := by
      rw [← List.reverse_append, ← cut, whole, List.reverse_reverse]
    cases first : last.reverse with
    | nil => exact absurd (List.reverse_eq_nil_iff.mp first) nonempty
    | cons letter rest =>
        have proper := plain letter (List.mem_reverse.mp (first ▸ List.mem_cons_self))
        simp [isAbsolute, turned, first, proper]
  · obtain ⟨idle, dots, whole⟩ := parts_dropIdle path.toList.reverse
    have single := parts_of_name (List.reverse_ne_nil_iff.mpr nonempty) (by simpa using plain)
    rw [List.reverse_reverse, String.ofList_toList, cut, single] at whole
    exact ⟨_, idle, whole, dots⟩

theorem parts_of_no_parent {path : String} (found : parent? path = none) :
    ∀ name ∈ parts path, name = "." := by
  obtain ⟨idle, dots, whole⟩ := parts_dropIdle path.toList.reverse
  rw [List.reverse_reverse, String.ofList_toList] at whole
  unfold parent? at found
  split at found
  · next none =>
      rw [none] at whole
      rw [whole]
      exact dots
  · next root =>
      rw [root] at whole
      rw [whole]
      exact dots
  · cases found

end Path

end Groundwork
