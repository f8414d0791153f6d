import Groundwork.Proofs.Vars.References

namespace Groundwork.Vars

/-! What expansion makes of a text, reference by reference. -/

variable {vars : Vars} {environment : Environment}

theorem lookup_eq_none_iff {name : String} :
    vars.lookup environment name = none ↔ vars.get? name = none ∧ environment name = none := by
  rw [lookup, Option.or_eq_none_iff]

theorem lookup_eq_some_iff {name value : String} :
    vars.lookup environment name = some value ↔
      vars.get? name = some value ∨ vars.get? name = none ∧ environment name = some value := by
  rw [lookup, Option.or_eq_some_iff]

theorem findSome?_letters (find : String → Option String) (letters : List Char) :
    (letters.map .letter).findSome? (Piece.undefined? find) = none := by
  simp [List.findSome?_eq_none_iff, Piece.undefined?]

theorem flatMap_letters (find : String → Option String) (letters : List Char) :
    (letters.map .letter).flatMap (Piece.expanded find) = letters := by
  simp [List.flatMap_map, Piece.expanded]

namespace Template

theorem undefined?_source (template : Template) :
    vars.undefined? environment template.source =
      template.names.find? fun name => (vars.lookup environment name).isNone := by
  rw [undefined?, pieces_source]
  induction template with
  | last text free => exact findSome?_letters _ _
  | reference lead free name named rest ih =>
      rw [pieces, List.findSome?_append, findSome?_letters, Option.none_or, List.findSome?_cons, ih,
        names, List.find?_cons, Piece.undefined?]
      cases (vars.lookup environment name).isNone <;> rfl

theorem expanded_pieces {template : Template} {value : String → String}
    (known : ∀ name ∈ template.names, vars.lookup environment name = some (value name)) :
    template.pieces.flatMap (Piece.expanded (vars.lookup environment)) =
      (template.fill value).toList := by
  induction template with
  | last text free => exact flatMap_letters _ _
  | reference lead free name named rest ih =>
      obtain ⟨here, later⟩ := List.forall_mem_cons.mp known
      rw [pieces, List.flatMap_append, flatMap_letters, List.flatMap_cons, ih later, fill,
        Piece.expanded, here, Option.getD_some, String.toList_append, String.toList_append,
        List.append_assoc]

theorem expand_source {template : Template} {value : String → String}
    (known : ∀ name ∈ template.names, vars.lookup environment name = some (value name)) :
    vars.expand environment template.source = .ok (template.fill value) := by
  have defined : vars.undefined? environment template.source = none := by
    rw [undefined?_source, List.find?_eq_none]
    intro name member
    rw [known name member]
    exact Bool.false_ne_true
  rw [expand_eq, defined, pieces_source, expanded_pieces known, String.ofList_toList]
  rfl

end Template

namespace Occurrence

variable {text : String}

theorem exists_before_iff (place : Occurrence text) {name : String} :
    (∃ other : Occurrence text, other.start < place.start ∧ other.name = name) ↔
      ∃ inner : Occurrence place.before, inner.name = name := by
  constructor
  · rintro ⟨other, earlier, rfl⟩
    have ended := stop_le earlier
    have passed : (other.before ++ referenceTo other.name).toList <+: place.before.toList := by
      have first : (other.before ++ referenceTo other.name).toList <+: text.toList :=
        ⟨other.after.toList, by rw [← String.toList_append, other.whole]⟩
      refine List.prefix_of_prefix_length_le first ⟨_, place.letters.symm⟩ ?_
      rw [String.length_toList, String.length_toList, String.length_append]
      exact ended
    obtain ⟨between, split⟩ := passed
    refine ⟨⟨other.before, other.name, String.ofList between, other.named, ?_⟩, rfl⟩
    apply String.toList_injective
    rw [String.toList_append, String.toList_ofList, split]
  · rintro ⟨inner, rfl⟩
    refine ⟨⟨inner.before, inner.name, inner.after ++ (referenceTo place.name ++ place.after),
      inner.named, ?_⟩, ?_, rfl⟩
    · have whole := place.whole
      rw [← inner.whole] at whole
      simpa [String.append_assoc] using whole
    · have lengths := congrArg String.length inner.whole
      have marked : 0 < (referenceTo inner.name).length := by
        rw [← String.length_toList, toList_referenceTo]
        simp
      simp only [String.length_append] at lengths
      simp only [start]
      omega

/-- The first reference that neither a variable nor the environment has a value for. -/
structure IsFirstUndefined (vars : Vars) (environment : Environment) (place : Occurrence text) :
    Prop where
  unset : vars.get? place.name = none
  absent : environment place.name = none
  first : ∀ other : Occurrence text, other.start < place.start →
    ¬ (vars.get? other.name = none ∧ environment other.name = none)

end Occurrence

theorem Occurrence.IsFirstUndefined.undefined?_eq {text : String} {place : Occurrence text}
    (undefined : place.IsFirstUndefined vars environment) :
    vars.undefined? environment text = some place.name := by
  obtain ⟨template, rfl, _⟩ := Template.existsUnique_source text
  obtain ⟨first, other, same, before, _⟩ := template.eq_joined_of_occurrence place
  have known : first.names.find? (fun name => (vars.lookup environment name).isNone) = none := by
    rw [List.find?_eq_none]
    intro name member unknown
    rw [Template.mem_names_iff, before, ← place.exists_before_iff] at member
    obtain ⟨earlier, starts, rfl⟩ := member
    exact undefined.first earlier starts
      (lookup_eq_none_iff.mp (Option.isNone_iff_eq_none.mp unknown))
  have unknown := lookup_eq_none_iff.mpr ⟨undefined.unset, undefined.absent⟩
  rw [Template.undefined?_source, congrArg Template.names same, Template.names_joined,
    List.find?_append, known, Option.none_or, List.find?_cons, unknown]
  rfl

theorem exists_undefined {text : String} (place : Occurrence text)
    (unknown : vars.lookup environment place.name = none) :
    ∃ name, vars.undefined? environment text = some name := by
  obtain ⟨template, rfl, _⟩ := Template.existsUnique_source text
  rw [Template.undefined?_source]
  exact Option.isSome_iff_exists.mp (List.find?_isSome.mpr
    ⟨place.name, Template.mem_names_iff.mpr ⟨place, rfl⟩, by rw [unknown]; rfl⟩)

theorem exists_firstUndefined {text name : String}
    (undefined : vars.undefined? environment text = some name) :
    ∃ place : Occurrence text, place.name = name ∧ place.IsFirstUndefined vars environment := by
  obtain ⟨template, rfl, _⟩ := Template.existsUnique_source text
  rw [Template.undefined?_source, List.find?_eq_some_iff_append] at undefined
  obtain ⟨unknown, before, after, split, known⟩ := undefined
  obtain ⟨first, other, named, rfl, rfl⟩ := Template.exists_joined split
  have missing := lookup_eq_none_iff.mp (Option.isNone_iff_eq_none.mp unknown)
  refine ⟨first.place named other, rfl, missing.1, missing.2, fun earlier starts => ?_⟩
  have listed : earlier.name ∈ first.names :=
    Template.mem_names_iff.mpr ((first.place named other).exists_before_iff.mp ⟨earlier, starts, rfl⟩)
  rw [← lookup_eq_none_iff]
  intro nothing
  simpa [nothing] using known earlier.name listed

/-- Expansion fails with the first reference that has no value, and with nothing else. -/
theorem expand_eq_error_iff {text : String} {failure : Failure} :
    vars.expand environment text = .error failure ↔
      ∃ place : Occurrence text, place.IsFirstUndefined vars environment ∧
        failure = .undefinedVariable place.name := by
  have named : vars.expand environment text = .error failure ↔
      ∃ name, vars.undefined? environment text = some name ∧ failure = .undefinedVariable name := by
    rw [expand_eq]
    cases vars.undefined? environment text with
    | none => simp
    | some name => simp [eq_comm]
  rw [named]
  constructor
  · rintro ⟨name, undefined, same⟩
    obtain ⟨place, rfl, first⟩ := exists_firstUndefined undefined
    exact ⟨place, first, same⟩
  · rintro ⟨place, first, same⟩
    exact ⟨place.name, first.undefined?_eq, same⟩

/-- A reference of the text has no value. -/
def HasUndefined (vars : Vars) (environment : Environment) (text : String) : Prop :=
  ∃ place : Occurrence text, vars.get? place.name = none ∧ environment place.name = none

theorem undefined?_eq_some_iff {text name : String} :
    vars.undefined? environment text = some name ↔
      ∃ place : Occurrence text, place.IsFirstUndefined vars environment ∧ place.name = name := by
  constructor
  · intro undefined
    obtain ⟨place, named, first⟩ := exists_firstUndefined undefined
    exact ⟨place, first, named⟩
  · rintro ⟨place, first, rfl⟩
    exact first.undefined?_eq

theorem hasUndefined_iff {text : String} :
    vars.HasUndefined environment text ↔ ∃ name, vars.undefined? environment text = some name := by
  constructor
  · rintro ⟨place, missing⟩
    exact exists_undefined place (lookup_eq_none_iff.mpr missing)
  · rintro ⟨name, undefined⟩
    obtain ⟨place, _, first⟩ := exists_firstUndefined undefined
    exact ⟨place, first.unset, first.absent⟩

theorem not_hasUndefined_iff {text : String} :
    ¬ vars.HasUndefined environment text ↔ vars.undefined? environment text = none := by
  rw [hasUndefined_iff, ← Option.isSome_iff_exists, Option.not_isSome_iff_eq_none]

theorem hasUndefined_iff_error {text : String} :
    vars.HasUndefined environment text ↔
      ∃ failure, vars.expand environment text = .error failure := by
  rw [hasUndefined_iff, expand_eq]
  cases vars.undefined? environment text <;> simp

theorem not_hasUndefined_iff_ok {text : String} :
    ¬ vars.HasUndefined environment text ↔
      ∃ expanded, vars.expand environment text = .ok expanded := by
  rw [hasUndefined_iff_error]
  cases vars.expand environment text <;> simp

/-- Expansion replaces all references of a text at once.  They never overlap, and they take the text
apart in one way only.  Where every reference has a value, that of the variable or else that of the
environment, the values stand in their places between what was there before; otherwise the first
reference without a value is reported. -/
theorem expand_replaces_references (vars : Vars) (environment : Environment) :
    (∀ text,
      (∀ first second : Occurrence text,
        first = second ∨ first.stop ≤ second.start ∨ second.stop ≤ first.start) ∧
      (∃! template : Template, template.source = text) ∧
      ((∃ failure, vars.expand environment text = .error failure) ↔
        ∃ place : Occurrence text, vars.get? place.name = none ∧ environment place.name = none) ∧
      ∀ failure, vars.expand environment text = .error failure →
        ∃ place : Occurrence text, place.IsFirstUndefined vars environment ∧
          failure = .undefinedVariable place.name) ∧
    ∀ template : Template,
      (∀ place : Occurrence template.source, ∃ first other : Template,
        template = first.joined place.named other ∧
          first.source = place.before ∧ other.source = place.after) ∧
      ∀ value : String → String,
        (∀ name ∈ template.names, vars.get? name = some (value name) ∨
          vars.get? name = none ∧ environment name = some (value name)) →
        vars.expand environment template.source = .ok (template.fill value) := by
  refine ⟨fun text => ⟨Occurrence.apart, Template.existsUnique_source text, ?_, ?_⟩,
    fun template => ⟨template.eq_joined_of_occurrence, fun value known => ?_⟩⟩
  · constructor
    · rintro ⟨failure, failed⟩
      obtain ⟨place, first, _⟩ := expand_eq_error_iff.mp failed
      exact ⟨place, first.unset, first.absent⟩
    · rintro ⟨place, unset, absent⟩
      obtain ⟨name, undefined⟩ := exists_undefined place (lookup_eq_none_iff.mpr ⟨unset, absent⟩)
      obtain ⟨_, rfl, first⟩ := exists_firstUndefined undefined
      exact ⟨_, expand_eq_error_iff.mpr ⟨_, first, rfl⟩⟩
  · exact fun failure => expand_eq_error_iff.mp
  · exact Template.expand_source fun name member => lookup_eq_some_iff.mpr (known name member)

/-- The text `$${A${A}}${NONE}${B}`: only whole references count, also inside of others. -/
def entangled : Template :=
  .reference "$$\x7bA" (referenceFree_of_pieces rfl) "A" ⟨'A', [], rfl, rfl, rfl⟩
    (.reference "\x7d" (referenceFree_of_pieces rfl) "NONE" ⟨'N', ['O', 'N', 'E'], rfl, rfl, rfl⟩
      (.reference "" referenceFree_empty "B" ⟨'B', [], rfl, rfl, rfl⟩
        (.last "" referenceFree_empty)))

/-- One variable holds a reference and one nothing. -/
def entangledVars : Vars := ofList [("A", "$\x7bB\x7d"), ("NONE", "")]

def entangledEnvironment : Environment := fun name => if name = "B" then some "b" else none

theorem expand_entangled :
    entangled.source = "$$\x7bA$\x7bA\x7d\x7d$\x7bNONE\x7d$\x7bB\x7d" ∧
      entangledVars.expand entangledEnvironment entangled.source =
        .ok "$$\x7bA$\x7bB\x7d\x7db" ∧
      entangledVars.expand .empty entangled.source = .error (.undefinedVariable "B") ∧
      ∃ place : Occurrence entangled.source,
        place.IsFirstUndefined entangledVars .empty ∧ place.name = "B" := by
  have expanded := ((expand_replaces_references entangledVars entangledEnvironment).2 entangled).2
    (fun name => (entangledVars.lookup entangledEnvironment name).getD "")
    (fun name member => by
      simp only [entangled, Template.names, List.mem_cons, List.not_mem_nil, or_false] at member
      rcases member with rfl | rfl | rfl
      · exact .inl rfl
      · exact .inl rfl
      · exact .inr ⟨rfl, rfl⟩)
  have failed : entangledVars.expand .empty entangled.source = .error (.undefinedVariable "B") := rfl
  obtain ⟨place, first, same⟩ :=
    ((expand_replaces_references entangledVars .empty).1 entangled.source).2.2.2 _ failed
  exact ⟨rfl, expanded, failed, place, first, (Failure.undefinedVariable.inj same).symm⟩

end Groundwork.Vars
