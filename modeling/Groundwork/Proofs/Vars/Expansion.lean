import Groundwork.Proofs.Act
import Groundwork.Run.Resolution
import Groundwork.Run.ValueExpansion

namespace Groundwork

/-! What expansion gives, and what it fails with.

A text, a list of texts and a value with texts in it all fail in the same way: with the first reference,
in the order in which they are read, that nothing is known about.
-/

def failure? {α : Type u} : Except Failure α → Option Failure
  | .ok _ => none
  | .error failure => some failure

section

variable {α β γ : Type u}

theorem failure?_eq_some {value : Except Failure α} {failure : Failure} :
    failure? value = some failure ↔ value = .error failure := by
  cases value <;> simp [failure?]

theorem failure?_convert (value : Except Failure α) (convert : α → β) :
    failure? (do let result ← value; return convert result) = failure? value := by
  cases value <;> rfl

theorem failure?_map (value : Except Failure α) (convert : α → β) :
    failure? (value.map convert) = failure? value := by
  cases value <;> rfl

theorem convert_eq_error_iff {value : Except Failure α} {convert : α → β} {failure : Failure} :
    (do let result ← value; return convert result) = (.error failure : Except Failure β) ↔
      value = .error failure := by
  rw [← failure?_eq_some, failure?_convert, failure?_eq_some]

theorem pure_eq_ok {value other : α} : (pure value : Except Failure α) = .ok other ↔ value = other := by
  simp [pure, Except.pure]

theorem failure?_both (first : Except Failure α) (second : Except Failure β)
    (combine : α → β → γ) :
    failure? (do let one ← first; let other ← second; return combine one other) =
      (failure? first).or (failure? second) := by
  cases first <;> cases second <;> rfl

/-- Where the later failure does not depend on what came out before, the first failure counts. -/
theorem failure?_bind {first : Except Failure α} {next : α → Except Failure β}
    {later : Option Failure} (same : ∀ value, failure? (next value) = later) :
    failure? (first >>= next) = (failure? first).or later := by
  cases first with
  | error failure => rfl
  | ok value => exact same value

theorem both_eq_error_iff {first : Except Failure α} {second : Except Failure β}
    {combine : α → β → γ} {failure : Failure} :
    (do let one ← first; let other ← second; return combine one other) =
        (.error failure : Except Failure γ) ↔
      first = .error failure ∨ (∃ one, first = .ok one) ∧ second = .error failure := by
  rw [← failure?_eq_some, failure?_both]
  cases first <;> cases second <;> simp [failure?]

end

namespace Vars

/-- The name of a reference that nothing is known about. -/
def Piece.undefined? (find : String → Option String) : Piece → Option String
  | .letter _ => none
  | .reference name => if (find name).isNone then some name else none

def Piece.expanded (find : String → Option String) : Piece → List Char
  | .letter value => [value]
  | .reference name => ((find name).getD "").toList

variable (vars : Vars) (environment : Environment)

/-- The first reference of a text that nothing is known about. -/
def undefined? (text : String) : Option String :=
  (pieces text).findSome? (Piece.undefined? (vars.lookup environment))

theorem expandPieces_eq (find : String → Option String) (pieces : List Piece) :
    expandPieces find pieces =
      (pieces.findSome? (Piece.undefined? find)).elim (.ok (pieces.flatMap (Piece.expanded find)))
        fun name => .error (.undefinedVariable name) := by
  induction pieces with
  | nil => rfl
  | cons piece rest ih =>
      cases piece with
      | letter letter =>
          rw [expandPieces, ih, List.findSome?_cons]
          simp only [Piece.undefined?]
          cases rest.findSome? (Piece.undefined? find) <;> rfl
      | reference name =>
          rw [expandPieces, List.findSome?_cons]
          cases known : find name with
          | none => simp [Piece.undefined?, known]
          | some value =>
              simp only [Piece.undefined?, known, ih]
              cases rest.findSome? (Piece.undefined? find) <;>
                simp [Piece.expanded, known, bind, Except.bind, pure, Except.pure]

theorem expand_eq (text : String) :
    vars.expand environment text =
      (vars.undefined? environment text).elim
        (.ok (String.ofList ((pieces text).flatMap (Piece.expanded (vars.lookup environment)))))
        fun name => .error (.undefinedVariable name) := by
  rw [expand, expandPieces_eq, undefined?]
  cases (pieces text).findSome? (Piece.undefined? (vars.lookup environment)) <;> rfl

theorem failure?_expand (text : String) :
    failure? (vars.expand environment text) =
      (vars.undefined? environment text).map .undefinedVariable := by
  rw [expand_eq]
  cases vars.undefined? environment text <;> rfl

/-- A letter or an underscore, and behind it letters, digits and underscores. -/
def IsName (name : String) : Prop :=
  ∃ start letters, name.toList = start :: letters ∧ isNameStart start = true ∧
    letters.all isNameLetter = true

/-- A text without references. -/
def IsPlain (text : String) : Prop :=
  ∀ name, Piece.reference name ∉ pieces text

theorem piecesAfter_append (passed rest : List Char) :
    piecesAfter passed.length (passed ++ rest) = piecesAfter 0 rest := by
  induction passed with
  | nil => rfl
  | cons letter passed ih =>
      rw [List.length_cons, List.cons_append, piecesAfter]
      exact ih

theorem referenceAt?_name {start : Char} {letters : List Char} (isStart : isNameStart start = true)
    (areLetters : ∀ letter ∈ letters, isNameLetter letter = true) (rest : List Char) :
    referenceAt? ('$' :: '{' :: start :: (letters ++ '}' :: rest)) = some (start :: letters) := by
  have stops : isNameLetter '}' = false := rfl
  have name : (letters ++ '}' :: rest).takeWhile isNameLetter = letters := by
    rw [List.takeWhile_append_of_pos areLetters, List.takeWhile_cons_of_neg (by simp [stops]),
      List.append_nil]
  have closing : (letters ++ '}' :: rest).dropWhile isNameLetter = '}' :: rest := by
    rw [List.dropWhile_append_of_pos areLetters, List.dropWhile_cons_of_neg (by simp [stops])]
  simp only [referenceAt?, isStart, name, closing, List.head?_cons, ↓reduceIte]

theorem pieces_reference {name : String} (named : IsName name) (rest : String) :
    pieces ("$\x7b" ++ name ++ "\x7d" ++ rest) = .reference name :: pieces rest := by
  obtain ⟨start, letters, split, isStart, areLetters⟩ := named
  have text : ("$\x7b" ++ name ++ "\x7d" ++ rest).toList =
      '$' :: '{' :: start :: (letters ++ '}' :: rest.toList) := by
    simp [String.toList_append, split]
  have found := referenceAt?_name isStart (List.all_eq_true.mp areLetters) rest.toList
  have same : String.ofList (start :: letters) = name := by rw [← split, String.ofList_toList]
  -- The rest of the reference is passed over letter by letter, so the pieces start anew behind it.
  have behind := piecesAfter_append ('{' :: start :: (letters ++ ['}'])) rest.toList
  rw [pieces, text, piecesAfter, found]
  simp only [List.length_cons, List.length_append, List.length_nil, Nat.zero_add, List.cons_append,
    List.append_assoc, List.nil_append] at behind
  simp only [same, List.length_cons, List.cons.injEq, true_and]
  exact behind

theorem piecesAfter_plain {letters : List Char}
    (plain : ∀ name, Piece.reference name ∉ piecesAfter 0 letters) :
    piecesAfter 0 letters = letters.map .letter := by
  induction letters with
  | nil => rfl
  | cons letter rest ih =>
      rw [piecesAfter] at plain ⊢
      split at plain
      · next name _ => exact absurd List.mem_cons_self (plain _)
      · next none =>
          rw [List.map_cons, ih fun name member => plain name (List.mem_cons_of_mem _ member)]

theorem pieces_plain {text : String} (plain : IsPlain text) :
    pieces text = text.toList.map .letter :=
  piecesAfter_plain plain

theorem isPlain_slash {text : String} (plain : IsPlain text) : IsPlain ("/" ++ text) := by
  have letters : pieces ("/" ++ text) = .letter '/' :: pieces text := by
    rw [pieces, String.toList_append]
    rfl
  intro name member
  rw [letters, List.mem_cons] at member
  rcases member with same | member
  · contradiction
  · exact plain name member

variable {vars : Vars} {environment : Environment}

theorem undefined?_eq_none_iff {text : String} :
    vars.undefined? environment text = none ↔
      ∀ name, Piece.reference name ∈ pieces text → vars.lookup environment name ≠ none := by
  rw [undefined?, List.findSome?_eq_none_iff]
  constructor
  · intro known name member unknown
    have failing := known _ member
    simp [Piece.undefined?, unknown] at failing
  · intro known piece member
    cases piece with
    | letter letter => rfl
    | reference name =>
        obtain ⟨value, found⟩ := Option.ne_none_iff_exists'.mp (known name member)
        simp [Piece.undefined?, found]

theorem expand_eq_ok_iff {text value : String} :
    vars.expand environment text = .ok value ↔
      (∀ name, Piece.reference name ∈ pieces text → vars.lookup environment name ≠ none) ∧
        String.ofList ((pieces text).flatMap (Piece.expanded (vars.lookup environment))) = value := by
  rw [expand_eq, ← undefined?_eq_none_iff]
  cases vars.undefined? environment text with
  | none => simp
  | some name => simp

theorem expand_plain {text : String} (plain : IsPlain text) :
    vars.expand environment text = .ok text := by
  have defined : vars.undefined? environment text = none := by
    rw [undefined?, pieces_plain plain, List.findSome?_eq_none_iff]
    simp [Piece.undefined?]
  rw [expand_eq, defined, pieces_plain plain, List.flatMap_map]
  simp [Piece.expanded]

theorem expand_reference {name value rest : String} (named : IsName name)
    (known : vars.lookup environment name = some value) :
    vars.expand environment ("$\x7b" ++ name ++ "\x7d" ++ rest) =
      (vars.expand environment rest).map (value ++ ·) := by
  simp only [expand_eq, undefined?, pieces_reference named, List.findSome?_cons, Piece.undefined?,
    known, Option.isNone_some, Bool.false_eq_true, ↓reduceIte, List.flatMap_cons, Piece.expanded,
    Option.getD_some]
  cases (pieces rest).findSome? (Piece.undefined? (vars.lookup environment)) with
  | none => simp [Except.map, String.ofList_append]
  | some missing => rfl

end Vars

namespace Toml

mutual

/-- The texts in a value, in the order in which they are read. -/
def Value.texts : Value → List String
  | .string text => [text]
  | .integer _ | .float _ | .bool _ | .datetime _ => []
  | .array items => itemTexts items
  | .table entries => entryTexts entries

def itemTexts : List Value → List String
  | [] => []
  | item :: rest => item.texts ++ itemTexts rest

def entryTexts : List (String × Value) → List String
  | [] => []
  | (_, value) :: rest => value.texts ++ entryTexts rest

end

end Toml

namespace Vars

variable (vars : Vars) (environment : Environment)

mutual

theorem failure?_expandValue : (value : Toml.Value) →
    failure? (vars.expandValue environment value) =
      (value.texts.findSome? (vars.undefined? environment)).map .undefinedVariable
  | .string text => by
      rw [expandValue, failure?_convert, failure?_expand, Toml.Value.texts, List.findSome?_singleton]
  | .integer _ | .float _ | .bool _ | .datetime _ => by rw [expandValue, Toml.Value.texts]; rfl
  | .array items => by
      rw [expandValue, failure?_convert, failure?_expandItems items, Toml.Value.texts]
  | .table entries => by
      rw [expandValue, failure?_convert, failure?_expandEntries entries, Toml.Value.texts]

theorem failure?_expandItems : (items : List Toml.Value) →
    failure? (vars.expandItems environment items) =
      ((Toml.itemTexts items).findSome? (vars.undefined? environment)).map .undefinedVariable
  | [] => by rw [expandItems, Toml.itemTexts]; rfl
  | item :: rest => by
      rw [expandItems, failure?_both, failure?_expandValue item, failure?_expandItems rest,
        Toml.itemTexts, List.findSome?_append, Option.map_or]

theorem failure?_expandEntries : (entries : List (String × Toml.Value)) →
    failure? (vars.expandEntries environment entries) =
      ((Toml.entryTexts entries).findSome? (vars.undefined? environment)).map .undefinedVariable
  | [] => by rw [expandEntries, Toml.entryTexts]; rfl
  | (key, value) :: rest => by
      rw [expandEntries, failure?_both, failure?_expandValue value, failure?_expandEntries rest,
        Toml.entryTexts, List.findSome?_append, Option.map_or]

end

end Vars

end Groundwork
