import Groundwork.Config.Basic
import Groundwork.Proofs.Decimal
import Groundwork.Proofs.Text

namespace Groundwork

/-! Overrides of the environment.

Five settings are looked at one after another.  Two of them must be numbers, and the first that is not
one ends it: the settings before it have been applied, and no other.
-/

/-- The environment without all other variables. -/
def Environment.only (names : List String) (environment : Environment) : Environment :=
  fun name => if name ∈ names then environment name else none

namespace Config

variable {lookup : Environment} {config after : Config} {name text : String} {limit : Nat}

/-- An empty value is no setting. -/
def SetTo (lookup : Environment) (name text : String) : Prop :=
  lookup name = some text ∧ text ≠ ""

/-- Between blanks at the two ends, digits after an optional plus sign, for a number below the
limit. -/
def NumeralBelow (limit : Nat) (text : String) (number : Fin limit) : Prop :=
  ∃ core, Text.Trims text core ∧ Decimal.Counts core.toList number

/-- The field becomes what the setting reads as; without the setting it stays. -/
def Overrides {α : Type} (lookup : Environment) (name : String) (Reads : String → α → Prop)
    (before after : Option α) : Prop :=
  (∃ text value, SetTo lookup name text ∧ Reads text value ∧ after = some value) ∨
    (∀ text, ¬ SetTo lookup name text) ∧ after = before

theorem setting?_eq_some_iff : setting? lookup name = some text ↔ SetTo lookup name text := by
  simp [setting?, Environment.nonempty, SetTo, Option.filter_eq_some_iff]

theorem setting?_eq_none_iff :
    setting? lookup name = none ↔ ∀ text, ¬ SetTo lookup name text := by
  simp only [← setting?_eq_some_iff, Option.eq_none_iff_forall_ne_some, ne_eq]

theorem setting?_nonempty (lookup : Environment) (name : String) :
    setting? lookup.nonempty name = setting? lookup name := by
  simp [setting?, Environment.nonempty, Option.filter_filter]

theorem setTo_only {names : List String} :
    SetTo (lookup.only names) name text ↔ name ∈ names ∧ SetTo lookup name text := by
  simp [SetTo, Environment.only, and_assoc]

theorem numberBelow?_eq_some_iff {number : Fin limit} :
    numberBelow? limit text = some number ↔ NumeralBelow limit text number := by
  have trimmed : Text.trimLetters text.toList = (Text.trim text).toList := by
    rw [Text.trim, String.toList_ofList]
  simp only [numberBelow?, Decimal.readBelow?_eq_some_iff, NumeralBelow, ← Text.trim_eq_iff,
    exists_eq_left', trimmed]

theorem overrides_text {before after : Option String} :
    Overrides lookup name Eq before after ↔ after = (setting? lookup name).or before := by
  cases said : setting? lookup name with
  | none =>
      have unset := setting?_eq_none_iff.mp said
      simp [Overrides, unset]
  | some value =>
      have set (text : String) : SetTo lookup name text ↔ value = text := by
        rw [← setting?_eq_some_iff, said, Option.some.injEq]
      simp [Overrides, set]

theorem askedNumber_cases (lookup : Environment) (name wanted : String) (limit : Nat) :
    (askedNumber lookup name wanted limit = .ok none ∧ ∀ text, ¬ SetTo lookup name text) ∨
    (∃ text number, askedNumber lookup name wanted limit = .ok (some number) ∧
      SetTo lookup name text ∧ NumeralBelow limit text number) ∨
    ∃ text, askedNumber lookup name wanted limit =
        .error (.config (name ++ " must be " ++ wanted ++ ", got '" ++ text ++ "'")) ∧
      SetTo lookup name text ∧ ∀ number, ¬ NumeralBelow limit text number := by
  unfold askedNumber
  cases said : setting? lookup name with
  | none => exact .inl ⟨rfl, setting?_eq_none_iff.mp said⟩
  | some text =>
      have set := setting?_eq_some_iff.mp said
      refine .inr ?_
      cases read : numberBelow? limit text with
      | some number => exact .inl ⟨text, number, by simp [read], set, numberBelow?_eq_some_iff.mp read⟩
      | none =>
          refine .inr ⟨text, by simp [read], set, fun number numeral => ?_⟩
          rw [numberBelow?_eq_some_iff.mpr numeral] at read
          contradiction

theorem askedNumber_error {wanted : String} {failure : Failure}
    (refused : askedNumber lookup name wanted limit = .error failure) :
    ∃ text, failure = .config (name ++ " must be " ++ wanted ++ ", got '" ++ text ++ "'") ∧
      SetTo lookup name text ∧ ∀ number, ¬ NumeralBelow limit text number := by
  rcases askedNumber_cases lookup name wanted limit with
    ⟨asked, _⟩ | ⟨_, _, asked, _⟩ | ⟨text, asked, set, none⟩
  · rw [asked] at refused
    contradiction
  · rw [asked] at refused
    contradiction
  · rw [asked] at refused
    exact ⟨text, (Except.error.inj refused).symm, set, none⟩

theorem SetTo.unique {other : String} (set : SetTo lookup name text)
    (otherSet : SetTo lookup name other) : text = other :=
  Option.some.inj (set.1.symm.trans otherSet.1)

theorem NumeralBelow.unique {number other : Fin limit} (numeral : NumeralBelow limit text number)
    (otherNumeral : NumeralBelow limit text other) : number = other :=
  Option.some.inj ((numberBelow?_eq_some_iff.mpr numeral).symm.trans
    (numberBelow?_eq_some_iff.mpr otherNumeral))

theorem overrides_number (wanted : String) {before after : Option (Fin limit)} :
    Overrides lookup name (NumeralBelow limit) before after ↔
      ∃ asked, askedNumber lookup name wanted limit = .ok asked ∧ after = asked.or before := by
  rcases askedNumber_cases lookup name wanted limit with
    ⟨asked, unset⟩ | ⟨text, number, asked, set, numeral⟩ | ⟨text, refused, set, none⟩
  · simp [Overrides, asked, unset]
  · simp only [asked, Except.ok.injEq, exists_eq_left', Option.some_or]
    constructor
    · rintro (⟨other, value, otherSet, otherNumeral, rfl⟩ | ⟨unset, _⟩)
      · obtain rfl := set.unique otherSet
        rw [numeral.unique otherNumeral]
      · exact absurd set (unset text)
    · rintro rfl
      exact .inl ⟨text, number, set, numeral, rfl⟩
  · refine iff_of_false ?_ (by simp [refused])
    rintro (⟨other, value, otherSet, numeral, _⟩ | ⟨unset, _⟩)
    · exact none value (set.unique otherSet ▸ numeral)
    · exact unset text set

theorem Overrides.reads {α : Type} {Reads : String → α → Prop} {before after : Option α}
    (overrides : Overrides lookup name Reads before after) (set : SetTo lookup name text) :
    ∃ value, Reads text value := by
  rcases overrides with ⟨other, value, otherSet, reads, _⟩ | ⟨unset, _⟩
  · exact ⟨value, set.unique otherSet ▸ reads⟩
  · exact absurd set (unset text)

theorem Overrides.again {α : Type} {Reads : String → α → Prop} {before after : Option α}
    (overrides : Overrides lookup name Reads before after) :
    Overrides lookup name Reads after after :=
  overrides.imp_right fun unset => ⟨unset.1, rfl⟩

theorem overrides_only {α : Type} {Reads : String → α → Prop} {before after : Option α}
    {names : List String} (listed : name ∈ names)
    (overrides : Overrides lookup name Reads before after) :
    Overrides (lookup.only names) name Reads before after := by
  simpa only [Overrides, setTo_only, listed, true_and] using overrides

theorem overrides_unlisted {α : Type} {Reads : String → α → Prop} (before : Option α)
    {names : List String} (unlisted : name ∉ names) :
    Overrides (lookup.only names) name Reads before before :=
  .inr ⟨fun _ set => unlisted (setTo_only.mp set).1, rfl⟩

/-- Five fields are overridden, and the other two stay. -/
structure Overridden (lookup : Environment) (config after : Config) : Prop where
  branch : Overrides lookup Name.branch Eq config.branch after.branch
  image : Overrides lookup Name.image Eq config.image after.image
  masterCount : Overrides lookup Name.masterCount (NumeralBelow countLimit) config.masterCount
    after.masterCount
  stagingDirectory : Overrides lookup Name.stagingOverride Eq config.stagingDirectory
    after.stagingDirectory
  stepTimeout : Overrides lookup Name.stepTimeout (NumeralBelow secondsLimit) config.stepTimeoutSeconds
    after.stepTimeoutSeconds
  taskfile : after.taskfile = config.taskfile
  vars : after.vars = config.vars

theorem Overridden.again (overridden : Overridden lookup config after) :
    Overridden lookup after after :=
  ⟨overridden.branch.again, overridden.image.again, overridden.masterCount.again,
    overridden.stagingDirectory.again, overridden.stepTimeout.again, rfl, rfl⟩

theorem applyOverrides_eq_ok_iff :
    config.applyOverrides lookup = (after, none) ↔ Overridden lookup config after := by
  constructor
  · intro applied
    unfold applyOverrides overrideMasterCount overrideTimeout at applied
    cases counted : askedNumber lookup Name.masterCount "a number" countLimit with
    | error failure => simp [counted, Except.map] at applied
    | ok count =>
        cases timed : askedNumber lookup Name.stepTimeout "seconds" secondsLimit with
        | error failure => simp [counted, timed, Except.map] at applied
        | ok seconds =>
            simp only [counted, timed, Except.map, Prod.mk.injEq, and_true] at applied
            subst applied
            exact ⟨overrides_text.mpr rfl, overrides_text.mpr rfl,
              (overrides_number _).mpr ⟨count, counted, rfl⟩, overrides_text.mpr rfl,
              (overrides_number _).mpr ⟨seconds, timed, rfl⟩, rfl, rfl⟩
  · rintro ⟨branch, image, masterCount, stagingDirectory, stepTimeout, taskfile, vars⟩
    obtain ⟨count, counted, newCount⟩ := (overrides_number "a number").mp masterCount
    obtain ⟨seconds, timed, newSeconds⟩ := (overrides_number "seconds").mp stepTimeout
    rw [overrides_text] at branch image stagingDirectory
    cases after
    simp only at branch image newCount stagingDirectory newSeconds taskfile vars
    subst branch image newCount stagingDirectory newSeconds taskfile vars
    simp only [applyOverrides, overrideMasterCount, overrideTimeout, counted, timed,
      Except.map, overrideTexts, overrideStaging]

/-- The settings in the order in which they are looked at. -/
def settingNames : List String :=
  [Name.branch, Name.image, Name.masterCount, Name.stagingOverride, Name.stepTimeout]

/-- The settings that must be numbers, with what is said of them and the limit of their numbers. -/
def numberSettings : List (String × String × Nat) :=
  [(Name.masterCount, "a number", countLimit), (Name.stepTimeout, "seconds", secondsLimit)]

/-- A setting that is not a number ends it. -/
structure Refused (lookup : Environment) (earlier : List String) (name : String) (failure : Failure) :
    Prop where
  place : ∃ later, settingNames = earlier ++ name :: later
  reason : ∃ text wanted limit, (name, wanted, limit) ∈ numberSettings ∧ SetTo lookup name text ∧
    (∀ number, ¬ NumeralBelow limit text number) ∧
    failure = .config (name ++ " must be " ++ wanted ++ ", got '" ++ text ++ "'")

/-- What was looked at before the bad setting has been applied, as if nothing else were set. -/
theorem applyOverrides_refused {failure : Failure}
    (refused : config.applyOverrides lookup = (after, some failure)) :
    ∃ earlier name, Refused lookup earlier name failure ∧
      Overridden (lookup.only earlier) config after := by
  unfold applyOverrides overrideMasterCount overrideTimeout at refused
  cases counted : askedNumber lookup Name.masterCount "a number" countLimit with
  | error cause =>
      simp only [counted, Except.map, Prod.mk.injEq, Option.some.injEq] at refused
      obtain ⟨rfl, rfl⟩ := refused
      refine ⟨[Name.branch, Name.image], Name.masterCount, ⟨⟨_, rfl⟩, ?_⟩, ?_⟩
      · obtain ⟨text, said, set, none⟩ := askedNumber_error counted
        exact ⟨text, _, _, List.mem_cons_self, set, none, said⟩
      · exact ⟨overrides_only (by decide) (overrides_text.mpr rfl),
          overrides_only (by decide) (overrides_text.mpr rfl), overrides_unlisted _ (by decide),
          overrides_unlisted _ (by decide), overrides_unlisted _ (by decide), rfl, rfl⟩
  | ok count =>
      cases timed : askedNumber lookup Name.stepTimeout "seconds" secondsLimit with
      | ok seconds => simp [counted, timed, Except.map] at refused
      | error cause =>
          simp only [counted, timed, Except.map, Prod.mk.injEq, Option.some.injEq] at refused
          obtain ⟨rfl, rfl⟩ := refused
          refine ⟨[Name.branch, Name.image, Name.masterCount, Name.stagingOverride], Name.stepTimeout,
            ⟨⟨_, rfl⟩, ?_⟩, ?_⟩
          · obtain ⟨text, said, set, none⟩ := askedNumber_error timed
            exact ⟨text, _, _, List.mem_cons_of_mem _ List.mem_cons_self, set, none, said⟩
          · exact ⟨overrides_only (by decide) (overrides_text.mpr rfl),
              overrides_only (by decide) (overrides_text.mpr rfl),
              overrides_only (by decide) ((overrides_number _).mpr ⟨count, counted, rfl⟩),
              overrides_only (by decide) (overrides_text.mpr rfl),
              overrides_unlisted _ (by decide), rfl, rfl⟩

theorem applyOverrides_nonempty (config : Config) (lookup : Environment) :
    config.applyOverrides lookup.nonempty = config.applyOverrides lookup := by
  simp only [applyOverrides, overrideTexts, overrideMasterCount, overrideStaging, overrideTimeout,
    askedNumber, setting?_nonempty]

theorem applyOverrides_ok_iff_numerals :
    (config.applyOverrides lookup).2 = none ↔
      ∀ name wanted limit, (name, wanted, limit) ∈ numberSettings →
        ∀ text, SetTo lookup name text → ∃ number, NumeralBelow limit text number := by
  cases result : config.applyOverrides lookup with | mk after ending => ?_
  constructor
  · rintro rfl
    have overridden := applyOverrides_eq_ok_iff.mp result
    intro name wanted limit listed text set
    simp only [numberSettings, List.mem_cons, Prod.mk.injEq, List.not_mem_nil, or_false] at listed
    rcases listed with ⟨rfl, rfl, rfl⟩ | ⟨rfl, rfl, rfl⟩
    · exact overridden.masterCount.reads set
    · exact overridden.stepTimeout.reads set
  · intro numerals
    cases ending with
    | none => rfl
    | some failure =>
        obtain ⟨_, _, ⟨_, text, wanted, limit, listed, set, none, _⟩, _⟩ :=
          applyOverrides_refused result
        obtain ⟨number, numeral⟩ := numerals _ _ _ listed text set
        exact absurd numeral (none number)

theorem effectiveMasterCount_of_count {number : Fin countLimit}
    (counted : config.masterCount = some number) :
    (1 ≤ number.val → config.effectiveMasterCount = .ok (min number.val 3)) ∧
      (number.val = 0 →
        config.effectiveMasterCount = .error (.config "master count must be at least 1")) := by
  have requested : config.requestedMasters = number.val := by
    rw [requestedMasters, counted, Option.map_some, Option.getD_some]
  rw [effectiveMasterCount, requested]
  constructor
  · intro positive
    rw [if_neg (by omega)]
    rfl
  · intro zero
    rw [if_pos zero]

/-- Overrides are read exactly and applied in order.  An empty value is no setting.  All are applied
exactly when the two numbers are numerals under their limits, and then to apply them again changes
nothing.  Otherwise the first that is not one is reported, and exactly the settings before it have been
applied.  Steps see a count that was set up to three, and none that is zero. -/
theorem applyOverrides_exact (config : Config) (lookup : Environment) :
    config.applyOverrides lookup.nonempty = config.applyOverrides lookup ∧
    ((config.applyOverrides lookup).2 = none ↔
      ∀ name wanted limit, (name, wanted, limit) ∈ numberSettings →
        ∀ text, SetTo lookup name text → ∃ number, NumeralBelow limit text number) ∧
    (∀ after, config.applyOverrides lookup = (after, none) →
      Overridden lookup config after ∧ after.applyOverrides lookup = (after, none)) ∧
    (∀ after failure, config.applyOverrides lookup = (after, some failure) →
      ∃ earlier name, Refused lookup earlier name failure ∧
        Overridden (lookup.only earlier) config after) ∧
    ∀ number, (config.applyOverrides lookup).1.masterCount = some number →
      (1 ≤ number.val →
        (config.applyOverrides lookup).1.effectiveMasterCount = .ok (min number.val 3)) ∧
      (number.val = 0 → (config.applyOverrides lookup).1.effectiveMasterCount =
        .error (.config "master count must be at least 1")) := by
  refine ⟨config.applyOverrides_nonempty lookup, applyOverrides_ok_iff_numerals, ?_,
    fun _ _ => applyOverrides_refused, fun _ => effectiveMasterCount_of_count⟩
  intro after applied
  have overridden := applyOverrides_eq_ok_iff.mp applied
  exact ⟨overridden, applyOverrides_eq_ok_iff.mpr overridden.again⟩

/-- A number of masters within blanks, behind a sign and zeros, and a timeout that is one too large. -/
def largeTimeout : Environment := fun name =>
  Table.get? name [("BMINFRA_STAGING_DIR", "out"), ("BMINFRA_STEP_TIMEOUT", "18446744073709551616"),
    ("IMAGE", ""), ("NUM_MASTERS", "\u2003+0007\n")]

theorem overrides_stop_at_large_timeout :
    ∃ after failure, applyOverrides largeTimeout { image := some "a.iso" } = (after, some failure) ∧
      after = { image := some "a.iso", masterCount := some ⟨7, by decide⟩, stagingDirectory := some "out" } ∧
      after.effectiveMasterCount = .ok 3 ∧
      ∃ earlier name, Refused largeTimeout earlier name failure ∧
        Overridden (largeTimeout.only earlier) { image := some "a.iso" } after := by
  obtain ⟨_, _, _, refused, effective⟩ := applyOverrides_exact { image := some "a.iso" } largeTimeout
  exact ⟨_, _, rfl, rfl, (effective ⟨7, by decide⟩ rfl).1 (by decide), refused _ _ rfl⟩

end Config

end Groundwork
