import Groundwork.Proofs.Vars.Defaults
import Groundwork.Proofs.Vars.Substitution

namespace Groundwork

/-! Defaults as a layer under the variables.

The defaults come in the order of their keys.  Each is expanded at its turn, by the variables that were
set before and by the keys before its own, so that what it comes to can be read off the variables at the
end.
-/

namespace Vars

theorem ext_get? {first second : Vars} (same : ∀ key, first.get? key = second.get? key) :
    first = second := by
  obtain ⟨entries, sorted⟩ := first
  obtain ⟨others, otherSorted⟩ := second
  cases sorted.ext otherSorted same
  rfl

/-- The variables of some names only. -/
def keeping (vars : Vars) (keep : String → Bool) : Vars :=
  ⟨vars.entries.filter fun entry => keep entry.1, vars.sorted.filter _⟩

theorem get?_keeping (vars : Vars) (keep : String → Bool) (key : String) :
    (vars.keeping keep).get? key = if keep key then vars.get? key else none :=
  Table.get?_filter keep key vars.entries

section

variable {given environment : Environment} {defaults : Table String} {vars final : Vars}

theorem addDefaults_of_set (set : ∀ entry ∈ defaults, vars.contains entry.1 = true) :
    addDefaults given environment defaults vars = (vars, none) := by
  induction defaults with
  | nil => rfl
  | cons entry rest ih =>
      obtain ⟨here, later⟩ := List.forall_mem_cons.mp set
      rw [addDefaults, if_pos here]
      exact ih later

theorem unset_of_addDefaults {key : String}
    (done : addDefaults given environment defaults vars = (final, none))
    (unset : final.get? key = none) : vars.get? key = none := by
  cases there : vars.get? key with
  | none => rfl
  | some value =>
      rw [get?_addDefaults_of_set done there] at unset
      contradiction

/-- One default is either gone through or stuck, whatever comes behind it. -/
theorem addDefaults_cons_cases (given environment : Environment) (key text : String) (vars : Vars) :
    (∃ next, ∀ rest, addDefaults given environment ((key, text) :: rest) vars =
        addDefaults given environment rest next) ∨
      (vars.get? key = none ∧ given key = none ∧
        ∃ failure, vars.expand environment text = .error failure ∧
          ∀ rest, addDefaults given environment ((key, text) :: rest) vars = (vars, some failure)) := by
  cases present : vars.get? key with
  | some value =>
      exact .inl ⟨vars, fun rest => by rw [addDefaults, contains, present]; rfl⟩
  | none =>
      have fresh : ¬ vars.contains key = true := by simp [contains, present]
      cases handed : given key with
      | some value =>
          exact .inl ⟨vars.set key value, fun rest => by rw [addDefaults, if_neg fresh, handed]⟩
      | none =>
          cases expanded : vars.expand environment text with
          | ok value =>
              exact .inl ⟨vars.set key value,
                fun rest => by rw [addDefaults, if_neg fresh, handed, expanded]⟩
          | error failure =>
              exact .inr ⟨rfl, rfl, failure, rfl,
                fun rest => by rw [addDefaults, if_neg fresh, handed, expanded]⟩

/-- A failure is that of the first default that cannot be expanded; those before it have been gone
through. -/
theorem addDefaults_eq_failed {failure : Failure}
    (failed : addDefaults given environment defaults vars = (final, some failure)) :
    ∃ before key text after, defaults = before ++ (key, text) :: after ∧
      addDefaults given environment before vars = (final, none) ∧
      final.get? key = none ∧ given key = none ∧
      final.expand environment text = .error failure := by
  induction defaults generalizing vars with
  | nil => cases failed
  | cons entry rest ih =>
      obtain ⟨key, text⟩ := entry
      rcases addDefaults_cons_cases given environment key text vars with
        ⟨next, passed⟩ | ⟨unset, missing, other, stuck, ended⟩
      · rw [passed] at failed
        obtain ⟨before, own, default, after, rfl, earlier, stuck⟩ := ih failed
        exact ⟨(key, text) :: before, own, default, after, rfl, (passed before).trans earlier, stuck⟩
      · rw [ended] at failed
        cases failed
        exact ⟨[], key, text, rest, rfl, rfl, unset, missing, stuck⟩

/-- What variables are when defaults were laid under them.  A default that was needed is what was given
for it, or else its expansion by the variables of before and those of smaller keys. -/
structure Layered (given environment : Environment) (defaults : Table String) (vars final : Vars) :
    Prop where
  kept : ∀ key value, vars.get? key = some value → final.get? key = some value
  keys : ∀ key, final.contains key = true ↔
    vars.contains key = true ∨ Table.contains key defaults = true
  added : ∀ key text, Table.get? key defaults = some text → vars.get? key = none →
    ∃ value, final.get? key = some value ∧
      (given key = some value ∨ given key = none ∧
        (final.keeping fun other => vars.contains other || decide (other < key)).expand environment
          text = .ok value)

/-- At its turn a default sees the variables that were there before and those of smaller keys. -/
theorem between_eq_keeping {before after : Table String} {key text : String} {between : Vars}
    (sorted : Table.Sorted (before ++ (key, text) :: after))
    (earlier : addDefaults given environment before vars = (between, none))
    (later : addDefaults given environment ((key, text) :: after) between = (final, none)) :
    between = final.keeping fun other => vars.contains other || decide (other < key) := by
  refine ext_get? fun other => ?_
  rw [get?_keeping]
  split
  · next within =>
      cases present : between.get? other with
      | some value => exact (get?_addDefaults_of_set later present).symm
      | none =>
          have unset := unset_of_addDefaults earlier present
          have smaller : other < key := by simpa [contains, unset] using within
          have absent : Table.get? other ((key, text) :: after) = none := by
            cases listed : Table.get? other ((key, text) :: after) with
            | none => rfl
            | some default => exact absurd smaller (turn_of_get? sorted listed).1
          exact ((get?_addDefaults_of_no_default later absent).trans present).symm
  · next outside =>
      simp only [contains, Bool.or_eq_true, decide_eq_true_eq, not_or, Bool.not_eq_true,
        Option.isSome_eq_false_iff, Option.isNone_iff_eq_none] at outside
      exact (get?_addDefaults_of_no_default earlier (get?_before_of_turn sorted outside.2)).trans
        outside.1

theorem layered_of_addDefaults (sorted : defaults.Sorted)
    (done : addDefaults given environment defaults vars = (final, none)) :
    Layered given environment defaults vars final := by
  refine ⟨fun _ _ => get?_addDefaults_of_set done, fun key => ?_, fun key text listed unset => ?_⟩
  · simp only [contains, Table.contains, Option.isSome_iff_exists]
    constructor
    · rintro ⟨value, present⟩
      cases listed : Table.get? key defaults with
      | some text => exact .inr ⟨text, rfl⟩
      | none => exact .inl ⟨value, (get?_addDefaults_of_no_default done listed).symm.trans present⟩
    · rintro (⟨value, present⟩ | ⟨text, listed⟩)
      · exact ⟨value, get?_addDefaults_of_set done present⟩
      · exact get?_addDefaults_of_default done listed
  · obtain ⟨before, after, rfl⟩ := List.append_of_mem (Table.mem_of_get? listed)
    obtain ⟨between, earlier, later⟩ := addDefaults_append_ok done
    -- Until its turn comes, nothing sets the key.
    have untouched : between.get? key = none :=
      (get?_addDefaults_of_no_default earlier (get?_before_of_turn sorted Std.lt_irrefl)).trans unset
    rw [← between_eq_keeping sorted earlier later]
    rcases addDefaults_cons_ok later with ⟨value, present, _⟩ | ⟨value, _, choice, rest⟩
    · simp [untouched] at present
    · exact ⟨value, get?_addDefaults_of_set rest (by rw [get?_set, if_pos rfl]), choice⟩

end

/-- Defaults only fill gaps, key after key: what was set stays, and each other key gets what is given
for it or else the expansion of its default, which sees the variables of before and those of smaller
keys.  Laying the same defaults under the result changes nothing.  A failure is that of the first
default that cannot be expanded, and the defaults of smaller keys have been laid then. -/
theorem addDefaults_layers {defaults : Table String} (sorted : defaults.Sorted) (vars : Vars)
    (given environment : Environment) :
    (∃ final, addDefaults given environment defaults vars = (final, none) ∧
      Layered given environment defaults vars final ∧
      ∀ laterGiven laterEnvironment,
        addDefaults laterGiven laterEnvironment defaults final = (final, none)) ∨
    ∃ final key text, ∃ place : Occurrence text,
      addDefaults given environment defaults vars =
        (final, some (.undefinedVariable place.name)) ∧
      Table.get? key defaults = some text ∧ vars.get? key = none ∧ given key = none ∧
      place.IsFirstUndefined final environment ∧
      Layered given environment (defaults.filter fun entry => decide (entry.1 < key)) vars final := by
  generalize result : addDefaults given environment defaults vars = outcome
  obtain ⟨final, failure⟩ := outcome
  cases failure with
  | none =>
      have layered := layered_of_addDefaults sorted result
      refine .inl ⟨final, rfl, layered, fun _ _ => addDefaults_of_set fun entry member => ?_⟩
      refine (layered.keys entry.1).mpr (.inr ?_)
      rw [Table.contains, sorted.get?_of_mem member]
      rfl
  | some failure =>
      obtain ⟨before, key, text, after, rfl, earlier, unset, missing, stuck⟩ :=
        addDefaults_eq_failed result
      obtain ⟨place, first, rfl⟩ := expand_eq_error_iff.mp stuck
      have layered := layered_of_addDefaults (List.pairwise_append.mp sorted).1 earlier
      refine .inr ⟨final, key, text, place, rfl,
        sorted.get?_of_mem (List.mem_append_right _ List.mem_cons_self),
        unset_of_addDefaults earlier unset, missing, first, ?_⟩
      rw [sorted.filter_before]
      exact layered

/-- One default refers to a key before its own and to one behind it. -/
def chainedDefaults : Table String :=
  [("BUILD", "$\x7bROOT\x7d/build"), ("DISK", "$\x7bBUILD\x7d/$\x7bIMAGE\x7d"),
    ("IMAGE", "base"), ("ROOT", "/srv")]

def chainedVars : Vars := ofList [("ROOT", "/work")]

def chainedEnvironment : Environment := fun name => if name = "IMAGE" then some "full" else none

theorem chainedDefaults_layered :
    chainedDefaults.Sorted ∧
      (∃ final, addDefaults .empty chainedEnvironment chainedDefaults chainedVars = (final, none) ∧
        final.entries = [("BUILD", "/work/build"), ("DISK", "/work/build/full"), ("IMAGE", "base"),
          ("ROOT", "/work")] ∧
        Layered .empty chainedEnvironment chainedDefaults chainedVars final) ∧
      ∃ final, addDefaults .empty .empty chainedDefaults chainedVars =
          (final, some (.undefinedVariable "IMAGE")) ∧
        final.entries = [("BUILD", "/work/build"), ("ROOT", "/work")] := by
  have sorted : chainedDefaults.Sorted := by decide
  refine ⟨sorted, ?_, _, rfl, rfl⟩
  rcases addDefaults_layers sorted chainedVars .empty chainedEnvironment with
    ⟨final, done, layered, _⟩ | ⟨final, key, text, place, failed, _⟩
  · have entries : (addDefaults .empty chainedEnvironment chainedDefaults chainedVars).1.entries =
        [("BUILD", "/work/build"), ("DISK", "/work/build/full"), ("IMAGE", "base"),
          ("ROOT", "/work")] := rfl
    rw [done] at entries
    exact ⟨final, done, entries, layered⟩
  · have done : (addDefaults .empty chainedEnvironment chainedDefaults chainedVars).2 = none := rfl
    rw [failed] at done
    contradiction

end Vars

end Groundwork
