import Groundwork.Proofs.Vars.Expansion
import Mathlib.Logic.ExistsUnique

namespace Groundwork

/-! Texts taken apart at their references.

Inside a reference no letter is a `$`, so that two references of a text never overlap.  Every text is
therefore made up of references and of texts without references in one way only, and expansion puts
values in the places of the references.
-/

namespace Vars

theorem prefix_of_absent {α : Type u} {marked rest passed more : List α} {letter : α}
    (absent : letter ∉ marked) (same : marked ++ rest = passed ++ letter :: more) :
    marked <+: passed := by
  rcases List.append_eq_append_iff.mp same with ⟨between, longer, _⟩ | ⟨cut, shorter, tail⟩
  · exact ⟨between, longer.symm⟩
  · cases cut with
    | nil => exact ⟨[], shorter.symm ▸ by simp⟩
    | cons first cut =>
        cases tail
        exact absurd (shorter ▸ List.mem_append_right _ List.mem_cons_self) absent

def referenceTo (name : String) : String :=
  "$\x7b" ++ name ++ "\x7d"

/-- What stands behind the `$` of a reference. -/
def behindDollar (name : List Char) : List Char :=
  '{' :: (name ++ ['}'])

theorem toList_referenceTo (name : String) :
    (referenceTo name).toList = '$' :: behindDollar name.toList := by
  simp [referenceTo, behindDollar, String.toList_append]

theorem isName_ofList {name : List Char} :
    IsName (String.ofList name) ↔ ∃ start letters, name = start :: letters ∧
      isNameStart start = true ∧ letters.all isNameLetter = true := by
  rw [IsName, String.toList_ofList]

theorem IsName.isNameLetter {name : String} (named : IsName name) {letter : Char}
    (member : letter ∈ name.toList) : isNameLetter letter = true := by
  obtain ⟨start, letters, split, isStart, areLetters⟩ := named
  rw [split] at member
  rcases List.mem_cons.mp member with rfl | later
  · rw [Vars.isNameLetter, isStart, Bool.true_or]
  · exact List.all_eq_true.mp areLetters letter later

theorem IsName.dollar_absent {name : String} (named : IsName name) :
    '$' ∉ behindDollar name.toList := by
  intro member
  rcases List.mem_cons.mp member with other | member
  · contradiction
  rcases List.mem_append.mp member with inside | last
  · exact absurd (named.isNameLetter inside) (by decide)
  · exact absurd (List.mem_singleton.mp last) (by decide)

theorem IsName.brace_absent {name : String} (named : IsName name) : '}' ∉ name.toList :=
  fun inside => absurd (named.isNameLetter inside) (by decide)

theorem referenceAt?_eq_some_iff {letters name : List Char} :
    referenceAt? letters = some name ↔
      IsName (String.ofList name) ∧ ∃ rest, letters = '$' :: (behindDollar name ++ rest) := by
  constructor
  · intro found
    unfold referenceAt? at found
    split at found
    · next start rest =>
        dsimp only at found
        split at found
        · next isStart =>
            split at found
            · next closed =>
                cases found
                have split := List.takeWhile_append_dropWhile (p := isNameLetter) (l := rest)
                refine ⟨isName_ofList.mpr ⟨start, _, rfl, isStart, List.all_takeWhile⟩, ?_⟩
                cases behind : rest.dropWhile isNameLetter with
                | nil => simp [behind] at closed
                | cons letter after =>
                    rw [behind, List.head?_cons] at closed
                    cases closed
                    rw [behind] at split
                    exact ⟨after, by simp [behindDollar, split]⟩
            · contradiction
        · contradiction
    · contradiction
  · rintro ⟨named, rest, rfl⟩
    obtain ⟨start, others, rfl, isStart, areLetters⟩ := isName_ofList.mp named
    have found := referenceAt?_name isStart (List.all_eq_true.mp areLetters) rest
    simpa [behindDollar] using found

theorem isSingleReference_iff {text : String} :
    isSingleReference text = true ↔ ∃ name, IsName name ∧ referenceTo name = text := by
  unfold isSingleReference
  constructor
  · intro single
    split at single
    · next start rest letters =>
        obtain ⟨isStart, closed⟩ := Bool.and_eq_true_iff.mp single
        have split := List.takeWhile_append_dropWhile (p := isNameLetter) (l := rest)
        rw [beq_iff_eq.mp closed] at split
        refine ⟨String.ofList (start :: rest.takeWhile isNameLetter), ?_, ?_⟩
        · exact isName_ofList.mpr ⟨start, _, rfl, isStart, List.all_takeWhile⟩
        · apply String.toList_injective
          rw [toList_referenceTo, String.toList_ofList, behindDollar, List.cons_append, split, letters]
    · contradiction
  · rintro ⟨name, ⟨start, letters, split, isStart, areLetters⟩, rfl⟩
    have closed : (letters ++ ['}']).dropWhile isNameLetter = ['}'] :=
      List.dropWhile_append_of_pos (List.all_eq_true.mp areLetters)
    rw [toList_referenceTo, behindDollar, split, List.cons_append]
    simp only [isStart, closed, beq_self_eq_true, Bool.and_self]

/-- A reference in a text, between what stands before it and what stands behind it. -/
@[ext]
structure Occurrence (text : String) where
  before : String
  name : String
  after : String
  named : IsName name
  whole : before ++ referenceTo name ++ after = text

namespace Occurrence

variable {text : String}

def start (place : Occurrence text) : Nat :=
  place.before.length

def stop (place : Occurrence text) : Nat :=
  place.start + (referenceTo place.name).length

theorem letters (place : Occurrence text) : text.toList =
    place.before.toList ++ '$' :: (behindDollar place.name.toList ++ place.after.toList) := by
  have split := congrArg String.toList place.whole
  rw [String.toList_append, String.toList_append, toList_referenceTo, List.append_assoc] at split
  exact split.symm

theorem stop_eq (place : Occurrence text) :
    place.stop = place.start + (behindDollar place.name.toList).length + 1 := by
  rw [stop, ← String.length_toList, toList_referenceTo, List.length_cons]
  omega

theorem stop_le {first second : Occurrence text} (later : first.start < second.start) :
    first.stop ≤ second.start := by
  have same := first.letters.symm.trans second.letters
  rcases List.append_eq_append_iff.mp same with ⟨between, split, rest⟩ | ⟨between, split, _⟩
  · cases between with
    | nil => simp [start, ← String.length_toList, split] at later
    | cons letter between =>
        -- The `$` of the second reference stands behind that of the first, in none of its letters.
        have inside := prefix_of_absent first.named.dollar_absent (List.cons.inj rest).2
        rw [stop_eq, start, start, ← String.length_toList, ← String.length_toList, split]
        simpa [Nat.add_assoc] using inside.length_le
  · have longer := congrArg List.length split
    simp only [List.length_append, String.length_toList] at longer
    simp only [start] at later
    omega

theorem eq_of_start_eq {first second : Occurrence text} (same : first.start = second.start) :
    first = second := by
  have letters := first.letters.symm.trans second.letters
  obtain ⟨before, rest⟩ := List.append_inj letters
    (by rw [String.length_toList, String.length_toList]; exact same)
  simp only [behindDollar, List.cons_append, List.append_assoc, List.nil_append, List.cons.injEq,
    true_and] at rest
  have shorter := prefix_of_absent first.named.brace_absent rest
  have longer := prefix_of_absent second.named.brace_absent rest.symm
  have name := shorter.eq_of_length_le longer.length_le
  rw [name, List.append_cancel_left_eq, List.cons.injEq] at rest
  exact Occurrence.ext (String.toList_injective before) (String.toList_injective name)
    (String.toList_injective rest.2)

theorem apart (first second : Occurrence text) :
    first = second ∨ first.stop ≤ second.start ∨ second.stop ≤ first.start := by
  rcases Nat.lt_trichotomy first.start second.start with before | same | behind
  · exact .inr (.inl (stop_le before))
  · exact .inl (eq_of_start_eq same)
  · exact .inr (.inr (stop_le behind))

end Occurrence

def ReferenceFree (text : String) : Prop :=
  ¬ Nonempty (Occurrence text)

theorem referenceFree_iff {text : String} :
    ReferenceFree text ↔ ∀ suffix, suffix <:+ text.toList → referenceAt? suffix = none := by
  constructor
  · rintro free suffix ⟨before, split⟩
    cases found : referenceAt? suffix with
    | none => rfl
    | some name =>
        obtain ⟨named, rest, rfl⟩ := referenceAt?_eq_some_iff.mp found
        refine absurd ⟨⟨String.ofList before, String.ofList name, String.ofList rest, named, ?_⟩⟩ free
        apply String.toList_injective
        simp [String.toList_append, toList_referenceTo, ← split]
  · rintro free ⟨place⟩
    have found : referenceAt? ('$' :: (behindDollar place.name.toList ++ place.after.toList)) =
        some place.name.toList :=
      referenceAt?_eq_some_iff.mpr ⟨by rw [String.ofList_toList]; exact place.named, _, rfl⟩
    rw [free _ (place.letters ▸ List.suffix_append _ _)] at found
    contradiction

theorem referenceFree_empty : ReferenceFree "" := by
  rw [referenceFree_iff]
  intro suffix within
  rw [List.suffix_nil.mp within]
  rfl

theorem referenceAt?_append {letters name : List Char} (found : referenceAt? letters = some name)
    (more : List Char) : referenceAt? (letters ++ more) = some name := by
  obtain ⟨named, rest, rfl⟩ := referenceAt?_eq_some_iff.mp found
  exact referenceAt?_eq_some_iff.mpr ⟨named, rest ++ more, by simp⟩

theorem ReferenceFree.cons {lead : String} (free : ReferenceFree lead) {letter : Char}
    (more : List Char) (nothing : referenceAt? (letter :: (lead.toList ++ more)) = none) :
    ReferenceFree (String.ofList (letter :: lead.toList)) := by
  rw [referenceFree_iff, String.toList_ofList]
  intro suffix within
  rcases List.suffix_cons_iff.mp within with rfl | inside
  · cases found : referenceAt? (letter :: lead.toList) with
    | none => rfl
    | some name =>
        rw [← List.cons_append, referenceAt?_append found] at nothing
        contradiction
  · exact referenceFree_iff.mp free suffix inside

/-- A text without references gives its letters, also in front of a text that starts with a
reference. -/
theorem piecesAfter_free {lead : List Char}
    (free : ∀ suffix, suffix <:+ lead → referenceAt? suffix = none) (rest : List Char)
    (start : ∀ letter ∈ rest.head?, letter = '$') :
    piecesAfter 0 (lead ++ rest) = lead.map .letter ++ piecesAfter 0 rest := by
  induction lead with
  | nil => rfl
  | cons letter lead ih =>
      have nothing : referenceAt? (letter :: (lead ++ rest)) = none := by
        cases found : referenceAt? (letter :: (lead ++ rest)) with
        | none => rfl
        | some name =>
            obtain ⟨named, after, split⟩ := referenceAt?_eq_some_iff.mp found
            obtain ⟨rfl, behind⟩ := List.cons.inj split
            -- The reference ends before the next `$`, so that it stands in the first text.
            have inside : behindDollar name <+: lead := by
              cases rest with
              | nil => exact ⟨after, by rw [← behind, List.append_nil]⟩
              | cons next rest =>
                  rw [start next (by simp)] at behind
                  have absent := named.dollar_absent
                  rw [String.toList_ofList] at absent
                  exact prefix_of_absent absent behind.symm
            obtain ⟨between, rfl⟩ := inside
            have there : referenceAt? ('$' :: (behindDollar name ++ between)) = some name :=
              referenceAt?_eq_some_iff.mpr ⟨named, between, rfl⟩
            rw [free _ (List.suffix_refl _)] at there
            contradiction
      rw [List.cons_append, piecesAfter, nothing, List.map_cons, List.cons_append]
      exact congrArg _ (ih fun suffix within => free suffix (within.trans (List.suffix_cons ..)))

theorem pieces_free {lead : String} (free : ReferenceFree lead) :
    pieces lead = lead.toList.map .letter := by
  have letters := piecesAfter_free (referenceFree_iff.mp free) [] (by simp)
  rw [List.append_nil] at letters
  rw [pieces, letters, piecesAfter, List.append_nil]

theorem pieces_free_reference {lead name : String} (free : ReferenceFree lead)
    (named : IsName name) (rest : String) :
    pieces (lead ++ referenceTo name ++ rest) =
      lead.toList.map .letter ++ .reference name :: pieces rest := by
  have letters := piecesAfter_free (referenceFree_iff.mp free) (referenceTo name ++ rest).toList
    (by simp [String.toList_append, toList_referenceTo])
  rw [pieces, String.append_assoc, String.toList_append, letters]
  exact congrArg _ (pieces_reference named rest)

/-- A text as references with texts without references between them. -/
inductive Template where
  | last (text : String) (free : ReferenceFree text)
  | reference (lead : String) (free : ReferenceFree lead) (name : String) (named : IsName name)
      (rest : Template)

namespace Template

/-- Puts something in the place of every reference. -/
def fill (value : String → String) : Template → String
  | .last text _ => text
  | .reference lead _ name _ rest => lead ++ value name ++ rest.fill value

/-- The text that a template is made from. -/
def source (template : Template) : String :=
  template.fill referenceTo

def names : Template → List String
  | .last _ _ => []
  | .reference _ _ name _ rest => name :: rest.names

def pieces : Template → List Piece
  | .last text _ => text.toList.map .letter
  | .reference lead _ name _ rest => lead.toList.map .letter ++ .reference name :: rest.pieces

/-- Two templates with a reference between them. -/
def joined (first : Template) {name : String} (named : IsName name) (other : Template) : Template :=
  match first with
  | .last text free => .reference text free name named other
  | .reference lead free own ownNamed rest =>
      .reference lead free own ownNamed (rest.joined named other)

theorem fill_joined (first : Template) {name : String} (named : IsName name) (other : Template)
    (value : String → String) :
    (first.joined named other).fill value = first.fill value ++ value name ++ other.fill value := by
  induction first with
  | last text free => rfl
  | reference lead free own ownNamed rest ih => simp [joined, fill, ih, String.append_assoc]

theorem names_joined (first : Template) {name : String} (named : IsName name) (other : Template) :
    (first.joined named other).names = first.names ++ name :: other.names := by
  induction first with
  | last text free => rfl
  | reference lead free own ownNamed rest ih => exact congrArg _ ih

theorem pieces_source (template : Template) : Vars.pieces template.source = template.pieces := by
  induction template with
  | last text free => exact pieces_free free
  | reference lead free name named rest ih =>
      exact (pieces_free_reference free named rest.source).trans (by rw [ih, pieces])

theorem letters_before_reference {lead other : List Char} {name otherName : String}
    {rest others : List Piece}
    (same : lead.map .letter ++ .reference name :: rest =
      other.map .letter ++ .reference otherName :: others) :
    lead = other ∧ name = otherName ∧ rest = others := by
  induction lead generalizing other with
  | nil => cases other <;> simp_all
  | cons letter lead ih =>
      cases other with
      | nil => simp at same
      | cons next other =>
          simp only [List.map_cons, List.cons_append, List.cons.injEq, Piece.letter.injEq] at same
          obtain ⟨rfl, behind⟩ := same
          obtain ⟨rfl, rest⟩ := ih behind
          exact ⟨rfl, rest⟩

theorem pieces_injective {first second : Template} (same : first.pieces = second.pieces) :
    first = second := by
  induction first generalizing second with
  | last text free =>
      cases second with
      | last other _ =>
          have letters := List.map_inj_right (fun _ _ => Piece.letter.inj) |>.mp same
          cases String.toList_injective letters
          rfl
      | reference lead _ name _ rest =>
          have member : Piece.reference name ∈ (last text free).pieces :=
            same ▸ List.mem_append_right _ List.mem_cons_self
          simp [pieces] at member
  | reference lead free name named rest ih =>
      cases second with
      | last text otherFree =>
          have member : Piece.reference name ∈ (last text otherFree).pieces :=
            same ▸ List.mem_append_right _ List.mem_cons_self
          simp [pieces] at member
      | reference otherLead _ otherName _ others =>
          obtain ⟨letters, rfl, behind⟩ := letters_before_reference same
          cases String.toList_injective letters
          rw [ih behind]

theorem exists_cons (template : Template) {letter : Char}
    (nothing : referenceAt? (letter :: template.source.toList) = none) :
    ∃ longer : Template, longer.source.toList = letter :: template.source.toList := by
  cases template with
  | last text free =>
      have longer : ReferenceFree (String.ofList (letter :: text.toList)) :=
        free.cons [] (by rw [List.append_nil]; exact nothing)
      exact ⟨.last _ longer, by simp [source, fill]⟩
  | reference lead free name named rest =>
      have split : (reference lead free name named rest).source.toList =
          lead.toList ++ (referenceTo name ++ rest.source).toList := by
        simp [source, fill, String.toList_append]
      rw [split] at nothing ⊢
      exact ⟨.reference _ (free.cons _ nothing) name named rest,
        by simp [source, fill, String.toList_append]⟩

theorem exists_source (letters : List Char) :
    ∃ template : Template, template.source.toList = letters := by
  -- By the length, as a reference is passed as a whole.
  induction bound : letters.length using Nat.strongRecOn generalizing letters with
  | _ length ih =>
      cases letters with
      | nil => exact ⟨.last "" referenceFree_empty, rfl⟩
      | cons letter rest =>
          cases found : referenceAt? (letter :: rest) with
          | none =>
              obtain ⟨template, rfl⟩ := ih rest.length (by simp [← bound]) rest rfl
              exact template.exists_cons found
          | some name =>
              obtain ⟨named, after, split⟩ := referenceAt?_eq_some_iff.mp found
              obtain ⟨template, rfl⟩ := ih after.length
                (by rw [← bound, split]; simp only [List.length_cons, List.length_append]; omega)
                after rfl
              refine ⟨.reference "" referenceFree_empty _ named template, ?_⟩
              rw [split]
              simp [source, fill, String.toList_append, toList_referenceTo]

theorem source_injective {first second : Template} (same : first.source = second.source) :
    first = second :=
  pieces_injective (by rw [← pieces_source, same, pieces_source])

/-- Every text is made from one template. -/
theorem existsUnique_source (text : String) : ∃! template : Template, template.source = text := by
  obtain ⟨template, letters⟩ := exists_source text.toList
  have made := String.toList_injective letters
  exact ⟨template, made, fun other same => source_injective (same.trans made.symm)⟩

/-- The references of a template are all references of its text. -/
theorem eq_joined_of_occurrence (template : Template) (place : Occurrence template.source) :
    ∃ first other : Template, template = first.joined place.named other ∧
      first.source = place.before ∧ other.source = place.after := by
  obtain ⟨first, before, _⟩ := existsUnique_source place.before
  obtain ⟨other, after, _⟩ := existsUnique_source place.after
  have whole := place.whole
  rw [← before, ← after] at whole
  have made : (first.joined place.named other).source = _ := fill_joined first place.named other _
  exact ⟨first, other, source_injective (whole.symm.trans made.symm), before, after⟩

def place (first : Template) {name : String} (named : IsName name) (other : Template) :
    Occurrence (first.joined named other).source :=
  ⟨first.source, name, other.source, named, (fill_joined first named other referenceTo).symm⟩

theorem exists_joined {template : Template} {before after : List String} {name : String}
    (split : template.names = before ++ name :: after) :
    ∃ first other : Template, ∃ named : IsName name,
      template = first.joined named other ∧ first.names = before := by
  induction template generalizing before with
  | last text free => simp [names] at split
  | reference lead free own ownNamed rest ih =>
      cases before with
      | nil =>
          obtain ⟨rfl, _⟩ := List.cons.inj split
          exact ⟨.last lead free, rest, ownNamed, rfl, rfl⟩
      | cons earlier before =>
          obtain ⟨rfl, behind⟩ := List.cons.inj split
          obtain ⟨first, other, named, rfl, earlier⟩ := ih behind
          exact ⟨.reference lead free _ ownNamed first, other, named, rfl, congrArg _ earlier⟩

theorem mem_names_iff {template : Template} {name : String} :
    name ∈ template.names ↔ ∃ place : Occurrence template.source, place.name = name := by
  constructor
  · intro member
    obtain ⟨before, after, split⟩ := List.append_of_mem member
    obtain ⟨first, other, named, rfl, _⟩ := exists_joined split
    exact ⟨first.place named other, rfl⟩
  · rintro ⟨place, rfl⟩
    obtain ⟨first, other, same, _⟩ := template.eq_joined_of_occurrence place
    rw [congrArg names same, names_joined]
    exact List.mem_append_right _ List.mem_cons_self

theorem reference_mem_pieces {template : Template} {name : String}
    (member : name ∈ template.names) : Piece.reference name ∈ template.pieces := by
  induction template with
  | last text free => contradiction
  | reference lead free own ownNamed rest ih =>
      refine List.mem_append_right _ ?_
      rcases List.mem_cons.mp member with rfl | later
      · exact List.mem_cons_self
      · exact List.mem_cons_of_mem _ (ih later)

end Template

theorem referenceFree_of_pieces {text : String} (letters : pieces text = text.toList.map .letter) :
    ReferenceFree text := by
  rintro ⟨place⟩
  obtain ⟨template, rfl, _⟩ := Template.existsUnique_source text
  have member := Template.reference_mem_pieces (Template.mem_names_iff.mpr ⟨place, rfl⟩)
  rw [← Template.pieces_source, letters] at member
  simp at member

end Vars

end Groundwork
