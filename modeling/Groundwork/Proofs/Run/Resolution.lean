import Groundwork.Proofs.Path
import Groundwork.Proofs.Vars.Substitution
import Mathlib.Data.List.Forall2

namespace Groundwork

/-! What resolving makes of the fields of a step.

The fields of an action fall into texts, which are expanded, paths and a working directory, which are
made absolute after that, and what only the step itself reads, which is kept.  The kinds differ in
nothing but the fields that they have.
-/

namespace Action

/-- The fields that are expanded and no more. -/
def texts : Action → List String
  | .exec program arguments _ => program :: arguments
  | .ensureResource name listing _ _ _ => name :: listing
  | .cloneIfAbsent url branch _ => [url, branch]
  | .shell .. | .copyIfAbsent .. | .tfvars .. | .remove .. => []

def paths : Action → List String
  | .copyIfAbsent source destination => [source, destination]
  | .cloneIfAbsent _ _ destination => [destination]
  | .tfvars file _ => [file]
  | .remove path => [path]
  | .shell .. | .exec .. | .ensureResource .. => []

/-- The working directory of the kinds that have one. -/
def directory? : Action → Option (Option String)
  | .shell _ directory | .exec _ _ directory | .ensureResource _ _ _ _ directory => some directory
  | .copyIfAbsent .. | .cloneIfAbsent .. | .tfvars .. | .remove .. => none

def script? : Action → Option String
  | .shell script _ => some script
  | .ensureResource _ _ _ create _ => some create
  | .exec .. | .copyIfAbsent .. | .cloneIfAbsent .. | .tfvars .. | .remove .. => none

def pattern? : Action → Option String
  | .ensureResource _ _ pattern _ _ => pattern
  | _ => none

def values : Action → List (String × Toml.Value)
  | .tfvars _ values => values
  | _ => []

/-- The fields that are expanded, in the order in which they are. -/
def expandedFields (action : Action) : List String :=
  action.texts ++ action.paths ++ action.directory?.join.toList

end Action

namespace StepContext

/-- The absolute place that a path names: what it expands to, from the base directory on. -/
structure Locates (context : StepContext) (path place : String) : Prop where
  expands : ∃ expanded, context.expand path = .ok expanded ∧
    place = if Path.isAbsolute expanded then expanded else Path.join context.baseDirectory expanded
  absolute : Path.isAbsolute place = true

/-- Without a directory of its own a step works in the base directory. -/
inductive WorksIn (context : StepContext) : Option String → Option String → Prop
  | own {path place : String} (locates : context.Locates path place) :
      WorksIn context (some path) (some place)
  | base (absolute : Path.isAbsolute context.baseDirectory = true) :
      WorksIn context none (some context.baseDirectory)

/-- An action and the same one with its fields resolved. -/
structure Resolves (context : StepContext) (action resolved : Action) : Prop where
  kind : resolved.kind = action.kind
  texts : List.Forall₂ (fun text expanded => context.expand text = .ok expanded)
    action.texts resolved.texts
  paths : List.Forall₂ context.Locates action.paths resolved.paths
  directory : Option.Rel context.WorksIn action.directory? resolved.directory?
  script : resolved.script? = action.script?
  pattern : resolved.pattern? = action.pattern?
  values : resolved.values = action.values

variable {context : StepContext}

theorem expandAll_eq_ok_iff {texts others : List String} :
    context.expandAll texts = .ok others ↔
      List.Forall₂ (fun text expanded => context.expand text = .ok expanded) texts others := by
  induction texts generalizing others with
  | nil => rw [List.forall₂_nil_left_iff, expandAll, Vars.expandAll, Except.ok.injEq, eq_comm]
  | cons text rest ih =>
      simp only [expandAll, Vars.expandAll, bind_eq_ok, pure_eq_ok, List.forall₂_cons_left_iff]
      constructor
      · rintro ⟨first, found, later, expanded, rfl⟩
        exact ⟨first, later, found, ih.mp expanded, rfl⟩
      · rintro ⟨first, later, found, expanded, rfl⟩
        exact ⟨first, found, later, ih.mpr expanded, rfl⟩

theorem Locates.of_resolve (rooted : Path.isAbsolute context.baseDirectory = true)
    {path place : String} (resolved : context.resolvePath path = .ok place) :
    context.Locates path place := by
  have nonempty : context.baseDirectory ≠ "" := fun empty => by simp [empty, Path.isAbsolute] at rooted
  obtain ⟨expanded, found, same⟩ := bind_eq_ok.mp resolved
  obtain rfl := pure_eq_ok.mp same
  refine ⟨⟨expanded, found, ?_⟩, ?_⟩
  · split
    · next absolute => exact Path.isAbsolute_join _ _ absolute
    · rfl
  · rw [Path.isAbsolute_join_eq nonempty, rooted, Bool.true_or]

theorem WorksIn.of_resolve (rooted : Path.isAbsolute context.baseDirectory = true)
    {directory place : Option String} (resolved : context.resolveDirectory directory = .ok place) :
    context.WorksIn directory place := by
  cases directory with
  | none =>
      cases resolved
      exact .base rooted
  | some path =>
      obtain ⟨found, located, same⟩ := bind_eq_ok.mp resolved
      obtain rfl := pure_eq_ok.mp same
      exact .own (.of_resolve rooted located)

/-- What expanding the texts one after the other fails with. -/
def failureIn? (context : StepContext) (texts : List String) : Option Failure :=
  (texts.findSome? (context.vars.undefined? context.environment)).map .undefinedVariable

theorem failureIn?_append (texts others : List String) :
    context.failureIn? (texts ++ others) = (context.failureIn? texts).or (context.failureIn? others) := by
  rw [failureIn?, List.findSome?_append, Option.map_or]
  rfl

theorem failure?_expand (text : String) :
    failure? (context.expand text) = context.failureIn? [text] := by
  rw [expand, Vars.failure?_expand, failureIn?, List.findSome?_singleton]

theorem failure?_expandAll (texts : List String) :
    failure? (context.expandAll texts) = context.failureIn? texts := by
  induction texts with
  | nil => rfl
  | cons text rest ih =>
      rw [expandAll, Vars.expandAll, failure?_both, ← expandAll, ih, ← expand, failure?_expand,
        ← failureIn?_append, List.singleton_append]

theorem failure?_resolvePath (path : String) :
    failure? (context.resolvePath path) = context.failureIn? [path] := by
  rw [resolvePath, failure?_convert, failure?_expand]

theorem failure?_resolveDirectory (directory : Option String) :
    failure? (context.resolveDirectory directory) = context.failureIn? directory.toList := by
  cases directory with
  | none => rfl
  | some path => rw [resolveDirectory, failure?_convert, failure?_resolvePath, Option.toList_some]

end StepContext

namespace Action

variable {context : StepContext}

theorem resolves_of_resolve (rooted : Path.isAbsolute context.baseDirectory = true)
    {action resolved : Action} (done : action.resolve context = .ok resolved) :
    context.Resolves action resolved := by
  cases action with
  | shell script directory =>
      obtain ⟨place, works, same⟩ := bind_eq_ok.mp done
      cases same
      exact ⟨rfl, .nil, .nil, .some (.of_resolve rooted works), rfl, rfl, rfl⟩
  | exec program arguments directory =>
      obtain ⟨expanded, found, later⟩ := bind_eq_ok.mp done
      obtain ⟨others, foundOthers, later⟩ := bind_eq_ok.mp later
      obtain ⟨place, works, same⟩ := bind_eq_ok.mp later
      cases same
      exact ⟨rfl, .cons found (StepContext.expandAll_eq_ok_iff.mp foundOthers), .nil,
        .some (.of_resolve rooted works), rfl, rfl, rfl⟩
  | ensureResource name listing pattern create directory =>
      obtain ⟨expanded, found, later⟩ := bind_eq_ok.mp done
      obtain ⟨others, foundOthers, later⟩ := bind_eq_ok.mp later
      obtain ⟨place, works, same⟩ := bind_eq_ok.mp later
      cases same
      exact ⟨rfl, .cons found (StepContext.expandAll_eq_ok_iff.mp foundOthers), .nil,
        .some (.of_resolve rooted works), rfl, rfl, rfl⟩
  | copyIfAbsent source destination =>
      obtain ⟨place, located, later⟩ := bind_eq_ok.mp done
      obtain ⟨target, locatedTarget, same⟩ := bind_eq_ok.mp later
      cases same
      exact ⟨rfl, .nil, .cons (.of_resolve rooted located)
        (.cons (.of_resolve rooted locatedTarget) .nil), .none, rfl, rfl, rfl⟩
  | cloneIfAbsent url branch destination =>
      obtain ⟨expanded, found, later⟩ := bind_eq_ok.mp done
      obtain ⟨other, foundOther, later⟩ := bind_eq_ok.mp later
      obtain ⟨place, located, same⟩ := bind_eq_ok.mp later
      cases same
      exact ⟨rfl, .cons found (.cons foundOther .nil), .cons (.of_resolve rooted located) .nil,
        .none, rfl, rfl, rfl⟩
  | tfvars path values =>
      obtain ⟨place, located, same⟩ := bind_eq_ok.mp done
      cases same
      exact ⟨rfl, .nil, .cons (.of_resolve rooted located) .nil, .none, rfl, rfl, rfl⟩
  | remove path =>
      obtain ⟨place, located, same⟩ := bind_eq_ok.mp done
      cases same
      exact ⟨rfl, .nil, .cons (.of_resolve rooted located) .nil, .none, rfl, rfl, rfl⟩

theorem failure?_resolve (action : Action) :
    failure? (action.resolve context) = context.failureIn? action.expandedFields := by
  -- Each kind is resolved in the order of its fields, whatever comes out for those before.
  cases action with
  | shell script directory =>
      rw [resolve, failure?_convert, StepContext.failure?_resolveDirectory]
      rfl
  | exec program arguments directory =>
      rw [resolve, failure?_bind fun _ => failure?_both _ _ _, StepContext.failure?_expand,
        StepContext.failure?_expandAll, StepContext.failure?_resolveDirectory,
        ← StepContext.failureIn?_append, ← StepContext.failureIn?_append]
      simp [expandedFields, texts, paths, directory?]
  | ensureResource name listing pattern create directory =>
      rw [resolve, failure?_bind fun _ => failure?_both _ _ _, StepContext.failure?_expand,
        StepContext.failure?_expandAll, StepContext.failure?_resolveDirectory,
        ← StepContext.failureIn?_append, ← StepContext.failureIn?_append]
      simp [expandedFields, texts, paths, directory?]
  | copyIfAbsent source destination =>
      rw [resolve, failure?_both, StepContext.failure?_resolvePath, StepContext.failure?_resolvePath,
        ← StepContext.failureIn?_append]
      rfl
  | cloneIfAbsent url branch destination =>
      rw [resolve, failure?_bind fun _ => failure?_both _ _ _, StepContext.failure?_expand,
        StepContext.failure?_expand, StepContext.failure?_resolvePath,
        ← StepContext.failureIn?_append, ← StepContext.failureIn?_append]
      rfl
  | tfvars path values =>
      rw [resolve, failure?_convert, StepContext.failure?_resolvePath]
      rfl
  | remove path =>
      rw [resolve, failure?_convert, StepContext.failure?_resolvePath]
      rfl

/-- Resolving keeps an action field by field: texts are expanded, paths and the working directory are
made absolute behind that, and scripts, patterns and values stay as they are.  It fails exactly where a
field that is expanded has a reference without a value, with the first one of the first such field. -/
theorem resolve_field_by_field (context : StepContext)
    (rooted : Path.isAbsolute context.baseDirectory = true) (action : Action) :
    (∀ resolved, action.resolve context = .ok resolved → context.Resolves action resolved) ∧
    ((∃ failure, action.resolve context = .error failure) ↔
      ∃ text ∈ action.expandedFields, context.vars.HasUndefined context.environment text) ∧
    ∀ failure, action.resolve context = .error failure →
      ∃ (before : List String) (text : String) (after : List String) (place : Vars.Occurrence text),
        action.expandedFields = before ++ text :: after ∧
        (∀ earlier ∈ before, ¬ context.vars.HasUndefined context.environment earlier) ∧
        place.IsFirstUndefined context.vars context.environment ∧
        failure = .undefinedVariable place.name := by
  have failed_iff {failure : Failure} : action.resolve context = .error failure ↔
      ∃ name, action.expandedFields.findSome? (context.vars.undefined? context.environment) =
        some name ∧ failure = .undefinedVariable name := by
    rw [← failure?_eq_some, failure?_resolve, StepContext.failureIn?, Option.map_eq_some_iff]
    simp only [eq_comm]
  refine ⟨fun resolved => resolves_of_resolve rooted, ⟨?_, ?_⟩, ?_⟩
  · rintro ⟨failure, failed⟩
    obtain ⟨name, found, -⟩ := failed_iff.mp failed
    obtain ⟨text, member, undefined⟩ := List.exists_of_findSome?_eq_some found
    exact ⟨text, member, Vars.hasUndefined_iff.mpr ⟨name, undefined⟩⟩
  · rintro ⟨text, member, undefined⟩
    obtain ⟨name, missing⟩ := Vars.hasUndefined_iff.mp undefined
    have found := List.findSome?_isSome_iff.mpr ⟨text, member, Option.isSome_of_eq_some missing⟩
    obtain ⟨first, isFirst⟩ := Option.isSome_iff_exists.mp found
    exact ⟨_, failed_iff.mpr ⟨first, isFirst, rfl⟩⟩
  · intro failure failed
    obtain ⟨name, found, rfl⟩ := failed_iff.mp failed
    obtain ⟨before, text, after, split, undefined, defined⟩ := List.findSome?_eq_some_iff.mp found
    obtain ⟨place, first, rfl⟩ := Vars.undefined?_eq_some_iff.mp undefined
    exact ⟨before, text, after, place, split,
      fun earlier member => Vars.not_hasUndefined_iff.mpr (defined earlier member), first, rfl⟩

/-- The value of a variable makes the working directory absolute.  The pattern and the script hold
references too. -/
def enlisting : Action :=
  .ensureResource "$\x7bNAME\x7d" ["virsh", "--$\x7bMODE\x7d"] (some "^$\x7bNAME\x7d$")
    "define $\x7bUNSET\x7d" (some "$\x7bROOT\x7d/vm")

def enlistingContext (environment : Environment) : StepContext :=
  ⟨"enlist", 1, .ofList [("NAME", "node")], environment, "/work", none, none⟩

def enlistingEnvironment : Environment := fun name =>
  if name = "MODE" then some "all" else if name = "ROOT" then some "/srv" else none

theorem enlisting_resolves :
    Path.isAbsolute "/work" = true ∧
    (∃ resolved, enlisting.resolve (enlistingContext enlistingEnvironment) = .ok resolved ∧
      resolved = .ensureResource "node" ["virsh", "--all"] (some "^$\x7bNAME\x7d$")
        "define $\x7bUNSET\x7d" (some "/srv/vm") ∧
      (enlistingContext enlistingEnvironment).Resolves enlisting resolved) ∧
    enlisting.resolve (enlistingContext .empty) = .error (.undefinedVariable "MODE") ∧
    ∃ (before : List String) (text : String) (after : List String) (place : Vars.Occurrence text),
      enlisting.expandedFields = before ++ text :: after ∧ place.name = "MODE" ∧
      ∀ earlier ∈ before, ¬ (enlistingContext .empty).vars.HasUndefined .empty earlier := by
  have rooted : Path.isAbsolute "/work" = true := rfl
  have resolves := (resolve_field_by_field (enlistingContext enlistingEnvironment) rooted enlisting).1 _ rfl
  have failed : enlisting.resolve (enlistingContext .empty) = .error (.undefinedVariable "MODE") := rfl
  obtain ⟨before, text, after, place, split, defined, -, same⟩ :=
    (resolve_field_by_field (enlistingContext .empty) rooted enlisting).2.2 _ failed
  exact ⟨rooted, ⟨_, rfl, rfl, resolves⟩, failed, before, text, after, place, split,
    (Failure.undefinedVariable.inj same).symm, defined⟩

end Action

end Groundwork
