import Groundwork.Proofs.Json.Exact
import Groundwork.Proofs.Json.Scalars
import Groundwork.Proofs.Table

namespace Groundwork.Json

/-! An indented text is read back as the value it was written from.

`read_pretty` needs the value to be one that has a text of its own: whole numbers of 64 bits, and
objects in key order.  It is exact about the limit on nesting: a value at or past it has a text too,
and that text is refused.
-/

theorem skipSpace_cons {letter : Char} (ink : isSpace letter = false) (rest : List Char) :
    skipSpace (letter :: rest) = letter :: rest := by
  rw [skipSpace, List.dropWhile_cons_of_neg (by simp [ink])]

theorem skipSpace_newLine (level : Nat) (rest : List Char) :
    skipSpace (newLine level ++ rest) = skipSpace rest := by
  have all : ∀ letter ∈ newLine level, isSpace letter = true := by
    intro letter member
    rcases List.mem_cons.mp member with rfl | blank
    · rfl
    · cases List.eq_of_mem_replicate blank
      rfl
  exact List.dropWhile_append_of_pos all

theorem ink_of_isDigit {letter : Char} (digit : letter.isDigit = true) :
    isSpace letter = false := by
  cases space : isSpace letter with
  | false => rfl
  | true =>
      simp only [isSpace, Bool.or_eq_true, beq_iff_eq] at space
      rcases space with ((rfl | rfl) | rfl) | rfl <;> cases digit

/-- The first letter of a value's text is no blank and closes nothing. -/
theorem first_letter {value : Value} (exact : value.Exact) (level : Nat) :
    ∃ letter rest, value.writeIndented level = letter :: rest ∧
      isSpace letter = false ∧ letter ≠ ']' := by
  cases value with
  | null => exact ⟨_, _, rfl, rfl, by decide⟩
  | bool value => cases value <;> exact ⟨_, _, rfl, rfl, by decide⟩
  | integer value =>
      cases value with
      | ofNat magnitude =>
          have text : (Value.integer (.ofNat magnitude)).writeIndented level =
            Nat.toDigits 10 magnitude := rfl
          cases letters : Nat.toDigits 10 magnitude with
          | nil => exact absurd letters Nat.toDigits_ne_nil
          | cons digit others =>
              have isDigit := Nat.isDigit_of_mem_toDigits (b := 10) (n := magnitude) (by decide)
                (by decide) (letters ▸ List.mem_cons_self)
              refine ⟨digit, others, text.trans letters, ?_, ?_⟩
              · exact ink_of_isDigit isDigit
              · rintro rfl
                cases isDigit
      | negSucc less => exact ⟨_, _, rfl, rfl, by decide⟩
  | float bits => cases exact
  | string text => exact ⟨_, _, rfl, rfl, by decide⟩
  | array items => cases items <;> exact ⟨_, _, rfl, rfl, by decide⟩
  | object members =>
      cases members with
      | nil => exact ⟨_, _, rfl, rfl, by decide⟩
      | cons member rest =>
          obtain ⟨key, value⟩ := member
          exact ⟨_, _, rfl, rfl, by decide⟩

theorem skipSpace_writeIndented {value : Value} (exact : value.Exact) (level : Nat)
    (rest : List Char) :
    skipSpace (value.writeIndented level ++ rest) = value.writeIndented level ++ rest := by
  obtain ⟨letter, others, text, ink, -⟩ := first_letter exact level
  rw [text, List.cons_append, skipSpace_cons ink]

theorem skipSpace_blank {value : Value} (exact : value.Exact) (level : Nat) (rest : List Char) :
    skipSpace (' ' :: (value.writeIndented level ++ rest)) = value.writeIndented level ++ rest :=
  skipSpace_writeIndented exact level rest

theorem skipSpace_writeString (text : String) (rest : List Char) :
    skipSpace (writeString text ++ rest) = writeString text ++ rest :=
  skipSpace_cons rfl _

theorem unclosed_writeIndented {value : Value} (exact : value.Exact) (level : Nat)
    (rest : List Char) : (value.writeIndented level ++ rest).head? ≠ some ']' := by
  obtain ⟨letter, others, text, -, unclosed⟩ := first_letter exact level
  rw [text, List.cons_append, List.head?_cons, ne_eq, Option.some.injEq]
  exact unclosed

theorem stops_items (level : Nat) (items : List Value) (rest : List Char) :
    Stops (writeItemsIndented level items ++ rest) := by
  cases items with
  | nil => exact .line _
  | cons item others => exact .comma _

theorem stops_members (level : Nat) (members : List (String × Value)) (rest : List Char) :
    Stops (writeMembersIndented level members ++ rest) := by
  cases members with
  | nil => exact .line _
  | cons member others => exact .comma _

theorem readLiteral_cons {letter : Char} (other : letter ≠ 'n' ∧ letter ≠ 't' ∧ letter ≠ 'f')
    (rest : List Char) : readLiteral (letter :: rest) = none := by
  obtain ⟨n, t, f⟩ := other
  simp [readLiteral, literals, n.symm, t.symm, f.symm]

theorem readValue_integer {value : Int} (word : IsWord value) {rest : List Char}
    (stops : Stops rest) (fuel depth : Nat) {letters : List Char}
    (text : skipSpace letters = Decimal.writeInteger value ++ rest) :
    readValue (fuel + 1) depth letters = some (.integer value, rest) := by
  obtain ⟨number, split, read⟩ := splitNumber_writeInteger word stops
  have first : ∃ letter others, Decimal.writeInteger value ++ rest = letter :: others ∧
      (letter.isDigit = true ∨ letter = '-') := by
    cases value with
    | negSucc less => exact ⟨_, _, rfl, .inr rfl⟩
    | ofNat magnitude =>
        cases digits : Nat.toDigits 10 magnitude with
        | nil => exact absurd digits Nat.toDigits_ne_nil
        | cons digit others =>
            refine ⟨digit, others ++ rest, by simp [Decimal.writeInteger, digits], .inl ?_⟩
            exact Nat.isDigit_of_mem_toDigits (b := 10) (n := magnitude) (by decide) (by decide)
              (digits ▸ List.mem_cons_self)
  obtain ⟨letter, others, shape, kind⟩ := first
  have apart : ∀ other, other.isDigit = false → other ≠ '-' → letter ≠ other := by
    rintro other noDigit noMinus rfl
    rcases kind with digit | minus
    · exact absurd digit (by simp [noDigit])
    · exact noMinus minus
  have literal := readLiteral_cons ⟨apart 'n' rfl (by decide), apart 't' rfl (by decide),
    apart 'f' rfl (by decide)⟩ others
  rw [shape] at text split
  unfold readValue
  split
  · next quote => exact absurd (List.cons.inj (text.symm.trans quote)).1 (apart '"' rfl (by decide))
  · next bracket => exact absurd (List.cons.inj (text.symm.trans bracket)).1 (apart '[' rfl (by decide))
  · next brace => exact absurd (List.cons.inj (text.symm.trans brace)).1 (apart '{' rfl (by decide))
  · simp only [text, literal, split, read, Option.map_some]

theorem readValue_array {fuel depth : Nat} {letters body items : List Char}
    (text : skipSpace letters = '[' :: body) (first : skipSpace body = items)
    (unclosed : items.head? ≠ some ']') :
    readValue (fuel + 1) depth letters =
      if depth ≤ 1 then none
      else (readItems fuel (depth - 1) items).map fun (items, rest) => (.array items, rest) := by
  simp only [readValue, text, first]
  split
  · rfl
  · split
    · next closed => exact absurd rfl unclosed
    · rfl

theorem readValue_object {fuel depth : Nat} {letters body members : List Char}
    (text : skipSpace letters = '{' :: body) (first : skipSpace body = members)
    (quoted : members.head? = some '"') :
    readValue (fuel + 1) depth letters =
      if depth ≤ 1 then none
      else
        (readMembers fuel (depth - 1) members).map fun (members, rest) =>
          (.object (Table.ofList members), rest) := by
  simp only [readValue, text, first]
  split
  · rfl
  · split
    · cases quoted
    · rfl

theorem readMembers_key {fuel depth : Nat} {letters rest : List Char} {key : String}
    (text : skipSpace letters = writeString key ++ ':' :: rest) :
    readMembers (fuel + 1) depth letters =
      match readValue fuel depth rest with
      | none => none
      | some (value, rest) =>
          match skipSpace rest with
          | '}' :: rest => some ([(key, value)], rest)
          | ',' :: rest =>
              (readMembers fuel depth rest).map fun (members, rest) => ((key, value) :: members, rest)
          | _ => none := by
  obtain ⟨body, shape, read⟩ := readString_writeString key (':' :: rest)
  have quote : skipSpace letters = '"' :: body := text.trans shape
  have colon : skipSpace (':' :: rest) = ':' :: rest := skipSpace_cons rfl rest
  generalize opened : readMembers (fuel + 1) depth letters = outcome
  simp only [readMembers, quote, read, colon] at opened
  exact opened.symm

mutual

theorem readValue_writeIndented (value : Value) (exact : value.Exact) (level : Nat)
    {rest : List Char} (stops : Stops rest) (fuel : Nat) {depth : Nat}
    (enough : (value.writeIndented level).length < fuel) (room : 0 < depth) {letters : List Char}
    (text : skipSpace letters = value.writeIndented level ++ rest) :
    readValue fuel depth letters = if value.nesting < depth then some (value, rest) else none := by
  match fuel, value with
  | fuel + 1, .null =>
      have opened : skipSpace letters = 'n' :: 'u' :: 'l' :: 'l' :: rest := text
      have flat : Value.null.nesting < depth := room
      simp only [readValue, opened, if_pos flat]
      rfl
  | fuel + 1, .bool true =>
      have opened : skipSpace letters = 't' :: 'r' :: 'u' :: 'e' :: rest := text
      have flat : (Value.bool true).nesting < depth := room
      simp only [readValue, opened, if_pos flat]
      rfl
  | fuel + 1, .bool false =>
      have opened : skipSpace letters = 'f' :: 'a' :: 'l' :: 's' :: 'e' :: rest := text
      have flat : (Value.bool false).nesting < depth := room
      simp only [readValue, opened, if_pos flat]
      rfl
  | fuel + 1, .integer value =>
      have flat : (Value.integer value).nesting < depth := room
      rw [if_pos flat]
      exact readValue_integer exact stops fuel depth text
  | fuel + 1, .float bits => cases exact
  | fuel + 1, .string string =>
      obtain ⟨body, shape, read⟩ := readString_writeString string rest
      have opened : skipSpace letters = '"' :: body := text.trans shape
      have flat : (Value.string string).nesting < depth := room
      simp only [readValue, opened, read, Option.map_some, if_pos flat]
  | fuel + 1, .array [] =>
      have opened : skipSpace letters = '[' :: ']' :: rest := text
      have closed : skipSpace (']' :: rest) = ']' :: rest := skipSpace_cons rfl rest
      have flat : (Value.array []).nesting = 1 := rfl
      simp only [readValue, opened, closed, flat]
      split
      · rw [if_neg (by omega)]
      · rw [if_pos (by omega)]
  | fuel + 1, .array (item :: items) =>
      have opened : skipSpace letters = '[' :: (newLine (level + 1) ++
          (item.writeIndented (level + 1) ++ (writeItemsIndented level items ++ rest))) := by
        simpa [Value.writeIndented] using text
      have first := skipSpace_writeIndented exact.1 (level + 1) (writeItemsIndented level items ++ rest)
      have unclosed := unclosed_writeIndented exact.1 (level + 1)
        (writeItemsIndented level items ++ rest)
      rw [readValue_array opened ((skipSpace_newLine _ _).trans first) unclosed, Value.nesting]
      split
      · rw [if_neg (by omega)]
      · next deep =>
          have fits : (item.writeIndented (level + 1) ++ writeItemsIndented level items).length < fuel := by
            simp only [Value.writeIndented, List.length_append, List.length_cons] at enough ⊢
            omega
          rw [readItems_writeIndented item items exact level rest fuel fits (by omega) first]
          split
          · rw [if_pos (by omega), Option.map_some]
          · rw [if_neg (by omega), Option.map_none]
  | fuel + 1, .object [] =>
      have opened : skipSpace letters = '{' :: '}' :: rest := text
      have closed : skipSpace ('}' :: rest) = '}' :: rest := skipSpace_cons rfl rest
      have flat : (Value.object []).nesting = 1 := rfl
      simp only [readValue, opened, closed, flat]
      split
      · rw [if_neg (by omega)]
      · rw [if_pos (by omega)]
  | fuel + 1, .object ((key, value) :: members) =>
      obtain ⟨sorted, exact⟩ := exact
      have opened : skipSpace letters = '{' :: (newLine (level + 1) ++
          (writeString key ++ ':' :: ' ' :: (value.writeIndented (level + 1) ++
            (writeMembersIndented level members ++ rest)))) := by
        simpa [Value.writeIndented] using text
      have first := (skipSpace_newLine (level + 1) _).trans (skipSpace_writeString key
        (':' :: ' ' :: (value.writeIndented (level + 1) ++ (writeMembersIndented level members ++ rest))))
      rw [readValue_object opened first rfl, Value.nesting]
      split
      · rw [if_neg (by omega)]
      · next deep =>
          have fits : (writeString key ++ ':' :: ' ' :: value.writeIndented (level + 1) ++
              writeMembersIndented level members).length < fuel := by
            simp only [Value.writeIndented, List.length_append, List.length_cons] at enough ⊢
            omega
          have read := readMembers_writeIndented key value members exact level rest fuel fits
            (show 0 < depth - 1 by omega) (skipSpace_writeString key _)
          rw [read]
          split
          · simp only [Option.map_some, sorted.ofList_eq]
            rw [if_pos (by omega)]
          · rw [if_neg (by omega), Option.map_none]

termination_by structural fuel

theorem readItems_writeIndented (item : Value) (items : List Value)
    (exact : ItemsExact (item :: items)) (level : Nat) (rest : List Char) (fuel : Nat) {depth : Nat}
    (enough : (item.writeIndented (level + 1) ++ writeItemsIndented level items).length < fuel)
    (room : 0 < depth) {letters : List Char}
    (text : skipSpace letters =
      item.writeIndented (level + 1) ++ (writeItemsIndented level items ++ rest)) :
    readItems fuel depth letters =
      if itemsNesting (item :: items) < depth then some (item :: items, rest) else none := by
  match fuel, items with
  | 0, _ => cases enough
  | fuel + 1, [] =>
      have closed : skipSpace (writeItemsIndented level [] ++ rest) = ']' :: rest := by
        rw [writeItemsIndented, List.append_assoc, skipSpace_newLine]
        exact skipSpace_cons rfl rest
      have fits : (item.writeIndented (level + 1)).length < fuel := by
        simp only [writeItemsIndented, newLine, List.length_append, List.length_cons] at enough
        omega
      have read := readValue_writeIndented item exact.1 (level + 1) (stops_items level [] rest)
        fuel fits room text
      have flat : itemsNesting [item] = item.nesting := Nat.max_zero _
      rw [readItems, read, flat]
      by_cases deep : item.nesting < depth
      · simp only [if_pos deep, closed]
      · simp only [if_neg deep]
  | fuel + 1, next :: others =>
      have comma : skipSpace (writeItemsIndented level (next :: others) ++ rest) =
          ',' :: (newLine (level + 1) ++ (next.writeIndented (level + 1) ++
            (writeItemsIndented level others ++ rest))) := by
        simp [writeItemsIndented, skipSpace_cons, isSpace]
      have first := (skipSpace_newLine (level + 1) _).trans (skipSpace_writeIndented exact.2.1
        (level + 1) (writeItemsIndented level others ++ rest))
      simp only [writeItemsIndented, List.length_append, List.length_cons] at enough
      have read := readValue_writeIndented item exact.1 (level + 1) (stops_items level _ rest)
        fuel (by omega) room text
      have fits : (next.writeIndented (level + 1) ++ writeItemsIndented level others).length <
          fuel := by
        rw [List.length_append]
        omega
      have tail := readItems_writeIndented next others exact.2 level rest fuel fits room first
      have both : itemsNesting (item :: next :: others) < depth ↔
        item.nesting < depth ∧ itemsNesting (next :: others) < depth := Nat.max_lt
      rw [readItems, read]
      by_cases deep : item.nesting < depth
      · rw [if_pos deep]
        simp only [comma, tail, Option.map_if, both, deep, true_and]
      · rw [if_neg deep, if_neg fun fits => deep (both.mp fits).1]
termination_by structural fuel

theorem readMembers_writeIndented (key : String) (value : Value)
    (members : List (String × Value)) (exact : MembersExact ((key, value) :: members))
    (level : Nat) (rest : List Char) (fuel : Nat) {depth : Nat}
    (enough : (writeString key ++ ':' :: ' ' :: value.writeIndented (level + 1) ++
      writeMembersIndented level members).length < fuel)
    (room : 0 < depth) {letters : List Char}
    (text : skipSpace letters = writeString key ++ ':' :: ' ' :: (value.writeIndented (level + 1) ++
      (writeMembersIndented level members ++ rest))) :
    readMembers fuel depth letters =
      if membersNesting ((key, value) :: members) < depth then
        some ((key, value) :: members, rest)
      else none := by
  simp only [List.length_append, List.length_cons] at enough
  match fuel, members with
  | 0, _ => cases enough
  | fuel + 1, [] =>
      have closed : skipSpace (writeMembersIndented level [] ++ rest) = '}' :: rest := by
        rw [writeMembersIndented, List.append_assoc, skipSpace_newLine]
        exact skipSpace_cons rfl rest
      have read := readValue_writeIndented value exact.1 (level + 1) (stops_members level [] rest)
        fuel (by omega) room (skipSpace_blank exact.1 _ _)
      have flat : membersNesting [(key, value)] = value.nesting := Nat.max_zero _
      rw [readMembers_key text, read, flat]
      by_cases deep : value.nesting < depth
      · simp only [if_pos deep, closed]
      · simp only [if_neg deep]
  | fuel + 1, (nextKey, next) :: others =>
      have comma : skipSpace (writeMembersIndented level ((nextKey, next) :: others) ++ rest) =
          ',' :: (newLine (level + 1) ++ (writeString nextKey ++ ':' :: ' ' ::
            (next.writeIndented (level + 1) ++ (writeMembersIndented level others ++ rest)))) := by
        simp [writeMembersIndented, skipSpace_cons, isSpace]
      have first := (skipSpace_newLine (level + 1) _).trans (skipSpace_writeString nextKey (':' :: ' ' ::
        (next.writeIndented (level + 1) ++ (writeMembersIndented level others ++ rest))))
      have stops := stops_members level ((nextKey, next) :: others) rest
      have read := readValue_writeIndented value exact.1 (level + 1) stops fuel (by omega) room
        (skipSpace_blank exact.1 _ _)
      have fits : (writeString nextKey ++ ':' :: ' ' :: next.writeIndented (level + 1) ++
          writeMembersIndented level others).length < fuel := by
        simp only [writeMembersIndented, List.length_append, List.length_cons] at enough ⊢
        omega
      have tail := readMembers_writeIndented nextKey next others exact.2 level rest fuel fits room first
      have both : membersNesting ((key, value) :: (nextKey, next) :: others) < depth ↔
        value.nesting < depth ∧ membersNesting ((nextKey, next) :: others) < depth := Nat.max_lt
      rw [readMembers_key text, read]
      by_cases deep : value.nesting < depth
      · rw [if_pos deep]
        simp only [comma, tail, Option.map_if, both, deep, true_and]
      · rw [if_neg deep, if_neg fun fits => deep (both.mp fits).1]
termination_by structural fuel

end

theorem read_pretty {value : Value} (exact : value.Exact) :
    read value.pretty = if value.nesting < depthLimit then some value else none := by
  have enough : (value.writeIndented 0).length < 2 * (value.writeIndented 0).length + 2 := by omega
  have text := skipSpace_writeIndented exact 0 []
  rw [List.append_nil] at text
  have whole := readValue_writeIndented value exact 0 .nothing _ enough (show 0 < depthLimit by decide)
    (text.trans (List.append_nil _).symm)
  rw [read, Value.pretty, String.toList_ofList, whole]
  by_cases deep : value.nesting < depthLimit
  · rw [if_pos deep, if_pos deep]
    rfl
  · rw [if_neg deep, if_neg deep]

theorem read_pretty_of_plain {value : Value} (plain : value.Plain) :
    read value.pretty = some value := by
  rw [read_pretty plain.1, if_pos plain.2]

theorem plain_merge {table later : Table Value} (plain : (Value.object table).Plain)
    (plainLater : (Value.object later).Plain) : (Value.object (Table.merge table later)).Plain := by
  rw [plain_object_iff] at plain plainLater ⊢
  refine ⟨plain.1.merge later, fun member merged => ?_⟩
  rcases Table.mem_merge merged with new | old
  · exact plainLater.2 member new
  · exact plain.2 member old

end Groundwork.Json
