import Groundwork.Proofs.Act
import Groundwork.Proofs.Store.Files
import Groundwork.Proofs.Text
import Groundwork.Run.Live

namespace Groundwork

/-! The names that the output of a listing command holds.

A line gives one name at most.  Without a pattern the blanks around the names, the lines between them
and the way in which lines end make no difference: a text lists certain names in exactly one way.
-/

namespace Listing

/-- The names that the lines give, in their order. -/
inductive Named (extract : Extraction) : List String → List String → Prop
  | done : Named extract [] []
  | name {line found name : String} {lines names : List String} (extracted : extract line = some found)
      (trims : Text.Trims found name) (nonempty : name ≠ "") (later : Named extract lines names) :
      Named extract (line :: lines) (name :: names)
  | nameless {line : String} {lines names : List String}
      (blank : ∀ found, extract line = some found → Text.IsBlank found)
      (later : Named extract lines names) : Named extract (line :: lines) names

variable {extract : Extraction} {line name output text : String} {names found : List String}

theorem nameOf?_extracted {part : String} (extracted : extract line = some part) :
    nameOf? extract line = if Text.trim part = "" then none else some (Text.trim part) := by
  simp only [nameOf?, extracted, String.isEmpty_iff]

theorem nameOf?_eq_some_iff :
    nameOf? extract line = some name ↔
      ∃ part, extract line = some part ∧ Text.Trims part name ∧ name ≠ "" := by
  cases extracted : extract line with
  | none => simp [nameOf?, extracted]
  | some part =>
      simp only [nameOf?_extracted extracted, Option.some.injEq, exists_eq_left', ← Text.trim_eq_iff]
      split
      · next empty => simp [empty, eq_comm]
      · next nonempty =>
          rw [Option.some.injEq]
          exact ⟨fun same => ⟨same, same ▸ nonempty⟩, fun both => both.1⟩

theorem nameOf?_eq_none_iff :
    nameOf? extract line = none ↔ ∀ part, extract line = some part → Text.IsBlank part := by
  cases extracted : extract line with
  | none => simp [nameOf?, extracted]
  | some part => simp [nameOf?_extracted extracted, ← Text.trim_eq_empty_iff]

theorem filterMap_nameOf?_eq_iff {lines : List String} :
    lines.filterMap (nameOf? extract) = names ↔ Named extract lines names := by
  constructor
  · rintro rfl
    induction lines with
    | nil => exact .done
    | cons line lines ih =>
        cases named : nameOf? extract line with
        | none =>
            rw [List.filterMap_cons_none named]
            exact .nameless (nameOf?_eq_none_iff.mp named) ih
        | some name =>
            rw [List.filterMap_cons_some named]
            obtain ⟨found, extracted, trims, nonempty⟩ := nameOf?_eq_some_iff.mp named
            exact .name extracted trims nonempty ih
  · intro named
    induction named with
    | done => rfl
    | name extracted trims nonempty later ih =>
        rw [List.filterMap_cons_some (nameOf?_eq_some_iff.mpr ⟨_, extracted, trims, nonempty⟩), ih]
    | nameless blank later ih => rw [List.filterMap_cons_none (nameOf?_eq_none_iff.mpr blank), ih]

theorem parse_eq_iff :
    parse extract output = names ↔ ∃ lines, Text.InLines output lines ∧ Named extract lines names := by
  rw [parse, filterMap_nameOf?_eq_iff]
  constructor
  · exact fun named => ⟨_, Text.lines_eq_iff.mp rfl, named⟩
  · rintro ⟨lines, taken, named⟩
    rwa [Text.lines_eq_iff.mpr taken]

theorem parse_append_feed (extract : Extraction) (text rest : String) :
    parse extract (text ++ "\n" ++ rest) = parse extract (text ++ "\n") ++ parse extract rest := by
  rw [parse, Text.lines_append_feed, List.filterMap_append]
  rfl

theorem trimmed_of_mem_parse (member : name ∈ parse extract output) :
    name ≠ "" ∧ Text.IsTrimmed name := by
  obtain ⟨line, -, named⟩ := List.mem_filterMap.mp member
  obtain ⟨found, -, ⟨-, -, -, -, -, trimmed⟩, nonempty⟩ := nameOf?_eq_some_iff.mp named
  exact ⟨nonempty, trimmed⟩

structure IsName (name : String) : Prop where
  nonempty : name ≠ ""
  trimmed : Text.IsTrimmed name
  plain : '\n' ∉ name.toList

/-- What may stand around a name. -/
structure IsPadding (text : String) : Prop where
  blank : Text.IsBlank text
  plain : '\n' ∉ text.toList

/-- A line with one name or with none. -/
inductive Row : List String → String → Prop
  | blank {padding : String} (around : IsPadding padding) : Row [] padding
  | named {before name after : String} (ahead : IsPadding before) (isName : IsName name)
      (behind : IsPadding after) : Row [name] (before ++ name ++ after)

/-- A text that holds the names, a line each, among blank lines. -/
inductive Lists : List String → String → Prop
  | unended {found : List String} {row : String} (holds : Row found row) : Lists found row
  | ended {found names : List String} {row ending rest : String} (holds : Row found row)
      (ends : ending = "\n" ∨ ending = "\r\n") (later : Lists names rest) :
      Lists (found ++ names) (row ++ ending ++ rest)

theorem Row.plain {row : String} (holds : Row found row) : '\n' ∉ row.toList := by
  cases holds with
  | blank around => exact around.plain
  | named ahead isName behind =>
      simp [String.toList_append, ahead.plain, isName.plain, behind.plain]

theorem Row.gives {row : String} (holds : Row found row) :
    (nameOf? wholeLine row).toList = found := by
  cases holds with
  | blank around =>
      have nothing : nameOf? wholeLine row = none :=
        nameOf?_eq_none_iff.mpr fun part same => Option.some.inj same ▸ around.blank
      rw [nothing, Option.toList_none]
  | @named before name after ahead isName behind =>
      have given : nameOf? wholeLine (before ++ name ++ after) = some name :=
        nameOf?_eq_some_iff.mpr ⟨_, rfl, ⟨before, after, rfl, ahead.blank, behind.blank, isName.trimmed⟩,
          isName.nonempty⟩
      rw [given, Option.toList_some]

theorem row_of_plain (plain : '\n' ∉ line.toList) : Row (nameOf? wholeLine line).toList line := by
  cases named : nameOf? wholeLine line with
  | none => exact .blank ⟨nameOf?_eq_none_iff.mp named line rfl, plain⟩
  | some name =>
      obtain ⟨_, ⟨⟩, ⟨before, after, rfl, blankBefore, blankAfter, trimmed⟩, nonempty⟩ :=
        nameOf?_eq_some_iff.mp named
      simp only [String.toList_append, List.mem_append, not_or] at plain
      exact .named ⟨blankBefore, plain.1.1⟩ ⟨nonempty, trimmed, plain.1.2⟩ ⟨blankAfter, plain.2⟩

theorem nameOf?_wholeLine (line : String) :
    nameOf? wholeLine line = if Text.trim line = "" then none else some (Text.trim line) :=
  nameOf?_extracted rfl

theorem nameOf?_congr {other : String} (same : Text.trim line = Text.trim other) :
    nameOf? wholeLine line = nameOf? wholeLine other := by
  rw [nameOf?_wholeLine, nameOf?_wholeLine, same]

theorem parse_wholeLine_feed (plain : '\n' ∉ line.toList) (rest : String) :
    parse wholeLine (line ++ "\n" ++ rest) =
      (nameOf? wholeLine line).toList ++ parse wholeLine rest := by
  rw [parse, Text.lines_ended plain, List.filterMap_cons, nameOf?_congr (Text.trim_dropCarriageReturn line)]
  cases nameOf? wholeLine line <;> rfl

theorem parse_wholeLine_ended {ending : String} (plain : '\n' ∉ line.toList)
    (ends : ending = "\n" ∨ ending = "\r\n") (rest : String) :
    parse wholeLine (line ++ ending ++ rest) =
      (nameOf? wholeLine line).toList ++ parse wholeLine rest := by
  rcases ends with rfl | rfl
  · exact parse_wholeLine_feed plain rest
  · have longer : '\n' ∉ (line ++ "\r").toList := by simpa [String.toList_append] using plain
    have inner : line ++ "\r\n" ++ rest = line ++ "\r" ++ "\n" ++ rest :=
      String.toList_injective (by simp [String.toList_append])
    rw [inner, parse_wholeLine_feed longer, nameOf?_congr (Text.trim_append_blank Text.isBlank_return)]

theorem parse_wholeLine_unended (plain : '\n' ∉ line.toList) :
    parse wholeLine line = (nameOf? wholeLine line).toList := by
  by_cases empty : line = ""
  · rw [empty]
    rfl
  · rw [parse, Text.lines_unended plain empty, List.filterMap_cons, List.filterMap_nil]
    cases nameOf? wholeLine line <;> rfl

theorem Lists.parses (lists : Lists names text) : parse wholeLine text = names := by
  induction lists with
  | unended holds => rw [parse_wholeLine_unended holds.plain, holds.gives]
  | ended holds ends later ih => rw [parse_wholeLine_ended holds.plain ends, holds.gives, ih]

theorem lists_parse (text : String) : Lists (parse wholeLine text) text := by
  have taken := Text.lines_eq_iff.mp (rfl : Text.lines text = _)
  generalize Text.lines text = lines at taken
  induction taken with
  | empty => exact .unended (.blank ⟨Text.isBlank_empty, List.not_mem_nil⟩)
  | unended plain nonempty =>
      rw [parse_wholeLine_unended plain]
      exact .unended (row_of_plain plain)
  | feed plain noReturn later ih =>
      rw [parse_wholeLine_ended plain (.inl rfl)]
      exact .ended (row_of_plain plain) (.inl rfl) ih
  | returnFeed plain later ih =>
      rw [parse_wholeLine_ended plain (.inr rfl)]
      exact .ended (row_of_plain plain) (.inr rfl) ih

theorem parse_wholeLine_eq_iff : parse wholeLine text = names ↔ Lists names text :=
  ⟨fun same => same ▸ lists_parse text, Lists.parses⟩

end Listing

theorem Command.capture_value {host : Host} {command : Command} {machine : Machine}
    {finished : Finished} {output : String}
    (ran : host.programs (command.launch host) ⟨none, false⟩ machine.store = .ok finished)
    (succeeded : (Command.endingOf finished).isSuccess = true)
    (clean : Text.Utf8.faultMessage finished.printed = none)
    (text : Text.Utf8.read? finished.printed = some output) :
    (command.capture host machine).value = .ok output := by
  have started : command.start host ⟨none, false⟩ machine =
      ⟨.ok finished, ⟨finished.store, machine.started ++ [command]⟩, []⟩ := by
    rw [Command.start, ran]
  simp only [Command.capture, bind, Act.andThen, Act.log, Act.note, started, succeeded, clean, text]
  rfl

theorem LiveRun.listed_value {host : Host} {command : Command} {machine : Machine} {output : String}
    (extract : Listing.Extraction) (captured : (command.capture host machine).value = .ok output) :
    (LiveRun.listed host command extract machine).value = .ok (Listing.parse extract output) := by
  simp only [LiveRun.listed, bind, Act.andThen, captured]
  rfl

theorem Guard.isListed_of_listing {σ : Type u} {listing : Act σ (List String)} {state : σ}
    {names : List String} (listed : (listing state).value = .ok names) (name : String) :
    (Guard.isListed listing name state).value = .ok (decide (name ∈ names)) := by
  simp [Guard.isListed, listed]

namespace Listing

/-- Parsing gives the names of the lines and nothing else, and goes on behind a line feed as if it began
there.  Without a pattern it gives back the names that a text lists, however they are laid out, and the
guard finds exactly those. -/
theorem parse_gives_listed_names :
    (∀ (extract : Extraction) (output : String) (names : List String),
      parse extract output = names ↔
        ∃ lines, Text.InLines output lines ∧ Named extract lines names) ∧
    (∀ (extract : Extraction) (output : String), ∀ name ∈ parse extract output,
      name ≠ "" ∧ Text.IsTrimmed name) ∧
    (∀ (extract : Extraction) (text rest : String),
      parse extract (text ++ "\n" ++ rest) = parse extract (text ++ "\n") ++ parse extract rest) ∧
    ∀ extract, extraction none = .ok extract →
      (∀ (output : String) (names : List String), parse extract output = names ↔ Lists names output) ∧
      ∀ (host : Host) (command : Command) (machine : Machine) (output : String) (names : List String),
        (command.capture host machine).value = .ok output → Lists names output →
          ∀ name, (Guard.isListed (LiveRun.listed host command extract) name machine).value =
            .ok (decide (name ∈ names)) := by
  refine ⟨fun _ _ _ => parse_eq_iff, fun _ _ _ => trimmed_of_mem_parse, parse_append_feed, ?_⟩
  rintro _ ⟨⟩
  refine ⟨fun _ _ => parse_wholeLine_eq_iff, fun host command machine output names captured lists => ?_⟩
  have listed := LiveRun.listed_value wholeLine captured
  rw [lists.parses] at listed
  exact Guard.isListed_of_listing listed

/-- Names among blank lines, with both endings and with none behind the last. -/
def machineListing : String := "alpha\r\n\n\tbeta 2 \n\u3000\r\n gamma"

def machineNames : List String := ["alpha", "beta 2", "gamma"]

/-- Every program of the host prints the listing. -/
def listingHost : Host :=
  { bareHost with
    programs := fun _ _ store => .ok ⟨.ended (.exited 0), store, machineListing.toUTF8, .empty⟩ }

def listingCommand : Command := ⟨"virsh", ["list", "--name"], none, []⟩

theorem machineListing_names :
    parse wholeLine machineListing = machineNames ∧ Lists machineNames machineListing ∧
    (listingCommand.capture listingHost ⟨.empty, []⟩).value = .ok machineListing ∧
    (Guard.isListed (LiveRun.listed listingHost listingCommand wholeLine) "beta 2" ⟨.empty, []⟩).value =
      .ok true ∧
    (Guard.isListed (LiveRun.listed listingHost listingCommand wholeLine) "beta" ⟨.empty, []⟩).value =
      .ok false := by
  obtain ⟨laidOut, guarded⟩ := parse_gives_listed_names.2.2.2 wholeLine rfl
  have lists : Lists machineNames machineListing := (laidOut _ _).mp rfl
  have clean : Text.Utf8.faultMessage machineListing.toUTF8 = none := by decide +kernel
  have captured : (listingCommand.capture listingHost ⟨.empty, []⟩).value = .ok machineListing :=
    Command.capture_value rfl rfl clean (Store.read?_toUTF8 machineListing)
  have found := guarded listingHost listingCommand ⟨.empty, []⟩ _ _ captured lists
  exact ⟨rfl, lists, captured, found "beta 2", found "beta"⟩

end Listing

end Groundwork
