import Groundwork.Proofs.Path
import Groundwork.Proofs.Store.Entries
import Groundwork.Store.Walk

namespace Groundwork.Store

/-! Walks cut in two, and the same walk in a store that has more. -/

/-- A name that is looked up in a directory. -/
structure IsLookedUp (name : String) : Prop where
  notDot : name ≠ "."
  notUp : name ≠ ".."
  short : ¬ nameLimit < name.utf8ByteSize

/-- `advance` as a relation, with a rule for each way to take a name. -/
inductive Walks (store : Store) (through : Bool) : Location → List String → Progress → Prop
  | here {here : Location} {entry : Entry} (found : store.get? here = some entry) :
      Walks store through here [] (.arrived here entry)
  | dot {here : Location} {rest : List String} {progress : Progress}
      (walks : Walks store through here rest progress) : Walks store through here ("." :: rest) progress
  | up {here : Location} {rest : List String} {progress : Progress}
      (walks : Walks store through here.dropLast rest progress) :
      Walks store through here (".." :: rest) progress
  | missing {here : Location} {name : String} (looked : IsLookedUp name)
      (absent : store.get? (here ++ [name]) = none) :
      Walks store through here [name] (.missing (here ++ [name]))
  | into {here : Location} {name : String} {rest : List String} {progress : Progress} {mode : Nat}
      (looked : IsLookedUp name) (found : store.get? (here ++ [name]) = some (.directory mode))
      (walks : Walks store through (here ++ [name]) rest progress) :
      Walks store through here (name :: rest) progress
  | linked {here : Location} {name target : String} {rest : List String} (looked : IsLookedUp name)
      (found : store.get? (here ++ [name]) = some (.link target)) (follows : rest = [] → through = true) :
      Walks store through here (name :: rest) (.linked here target rest)
  | arrived {here : Location} {name : String} {entry : Entry} (looked : IsLookedUp name)
      (found : store.get? (here ++ [name]) = some entry) (leaf : entry.isDirectory = false)
      (stays : entry.isLink = true → through = false) :
      Walks store through here [name] (.arrived (here ++ [name]) entry)

/-- Where the names in the target of a link start. -/
def targetStart (directory : Location) (target : String) : Location :=
  if Path.isAbsolute target then [] else directory

/-- `follow` as a relation, with a rule for each way to come to a spot. -/
inductive Leads (store : Store) (through : Bool) : Nat → Location → List String → Spot → Prop
  | arrived {links : Nat} {here place : Location} {steps : List String} {entry : Entry}
      (came : store.advance through here steps = .ok (.arrived place entry)) :
      Leads store through links here steps (.taken place entry)
  | missing {links : Nat} {here place : Location} {steps : List String}
      (came : store.advance through here steps = .ok (.missing place)) :
      Leads store through links here steps (.vacant place)
  | linked {links : Nat} {here directory : Location} {steps rest : List String} {target : String}
      {spot : Spot}
      (came : store.advance through here steps = .ok (.linked directory target rest))
      (leads : Leads store through links (targetStart directory target) (stepsOf target ++ rest) spot) :
      Leads store through (links + 1) here steps spot

/-- What becomes of a walk in a store that keeps every entry: it may find a directory where nothing
was. -/
inductive Progress.Kept : Progress → Progress → Prop
  | arrived {place : Location} {entry other : Entry} (alike : entry.Alike other) :
      Kept (.arrived place entry) (.arrived place other)
  | filled (place : Location) (mode : Nat) : Kept (.missing place) (.arrived place (.directory mode))
  | linked (directory : Location) (target : String) (rest : List String) :
      Kept (.linked directory target rest) (.linked directory target rest)

/-- What becomes of the spot of a path. -/
inductive Spot.Kept : Spot → Spot → Prop
  | taken {place : Location} {entry other : Entry} (alike : entry.Alike other) :
      Kept (.taken place entry) (.taken place other)
  | filled (place : Location) (mode : Nat) : Kept (.vacant place) (.taken place (.directory mode))

variable {store before after : Store} {here place : Location} {entry : Entry}
  {steps more idle : List String} {through : Bool} {links : Nat} {spot : Spot}

theorem advance_dot_cons (store : Store) (through : Bool) (here : Location) (rest : List String) :
    store.advance through here ("." :: rest) = store.advance through here rest := by
  rw [advance, if_pos rfl]

theorem advance_up_cons (store : Store) (through : Bool) (here : Location) (rest : List String) :
    store.advance through here (".." :: rest) = store.advance through here.dropLast rest := by
  rw [advance, if_neg (by decide), if_pos rfl]

theorem advance_into {name : String} {mode : Nat} (looked : IsLookedUp name)
    (found : store.get? (here ++ [name]) = some (.directory mode)) (rest : List String) :
    store.advance through here (name :: rest) = store.advance through (here ++ [name]) rest := by
  simp only [advance, if_neg looked.notDot, if_neg looked.notUp, if_neg looked.short, found]

theorem Walks.advance_eq {progress : Progress} (walks : Walks store through here steps progress) :
    store.advance through here steps = .ok progress := by
  induction walks with
  | here found => rw [advance, found]
  | dot _ ih => rw [advance_dot_cons, ih]
  | up _ ih => rw [advance_up_cons, ih]
  | missing looked absent =>
      simp only [advance, if_neg looked.notDot, if_neg looked.notUp, if_neg looked.short, absent]
      rfl
  | into looked found _ ih => rw [advance_into looked found, ih]
  | @linked _ _ target rest looked found follows =>
      simp only [advance, if_neg looked.notDot, if_neg looked.notUp, if_neg looked.short, found]
      cases rest with
      | nil => simp [follows rfl]
      | cons => rfl
  | @arrived _ _ entry looked found leaf stays =>
      simp only [advance, if_neg looked.notDot, if_neg looked.notUp, if_neg looked.short, found]
      cases entry with
      | directory mode => cases leaf
      | link target => simp [stays rfl]
      | file | sink => rfl

theorem walks_of_advance {progress : Progress} (came : store.advance through here steps = .ok progress) :
    Walks store through here steps progress := by
  induction steps generalizing here with
  | nil =>
      unfold advance at came
      split at came <;> cases came
      next found => exact .here found
  | cons name rest ih =>
      unfold advance at came
      split at came
      · next dot => exact dot ▸ .dot (ih came)
      next notDot =>
      split at came
      · next up => exact up ▸ .up (ih came)
      next notUp =>
      split at came
      · cases came
      next short =>
      have looked : IsLookedUp name := ⟨notDot, notUp, short⟩
      simp only at came
      split at came
      · next absent =>
          split at came <;> cases came
          next last =>
            obtain rfl := List.isEmpty_iff.mp last
            exact .missing looked absent
      · next mode found => exact .into looked found (ih came)
      · next target found =>
          split at came <;> cases came
          · next last =>
              obtain ⟨ends, own⟩ := Bool.and_eq_true_iff.mp last
              obtain rfl := List.isEmpty_iff.mp ends
              exact .arrived looked found rfl fun _ => by simpa using own
          · next goesOn => exact .linked looked found (by rintro rfl; simpa using goesOn)
      · next entry notDirectory notLink found =>
          split at came <;> cases came
          next last =>
            obtain rfl := List.isEmpty_iff.mp last
            cases entry with
            | directory mode => exact absurd rfl (notDirectory mode)
            | link target => exact absurd rfl (notLink target)
            | file | sink => exact .arrived looked found rfl (by simp [Entry.isLink])

theorem walks_iff {progress : Progress} : Walks store through here steps progress ↔
    store.advance through here steps = .ok progress :=
  ⟨Walks.advance_eq, walks_of_advance⟩

theorem Leads.follow_eq (leads : Leads store through links here steps spot) :
    store.follow through links here steps = .ok spot := by
  induction leads with
  | arrived came => rw [follow, came]
  | missing came => rw [follow, came]
  | linked came _ ih =>
      rw [follow, came]
      exact ih

theorem leads_of_follow (led : store.follow through links here steps = .ok spot) :
    Leads store through links here steps spot := by
  induction links generalizing here steps with
  | zero =>
      unfold follow at led
      split at led <;> cases led
      · next came => exact .arrived came
      · next came => exact .missing came
  | succ links ih =>
      unfold follow at led
      split at led
      · cases led
      · next came => cases led; exact .arrived came
      · next came => cases led; exact .missing came
      · next came => exact .linked came (ih led)

theorem leads_iff : Leads store through links here steps spot ↔
    store.follow through links here steps = .ok spot :=
  ⟨Leads.follow_eq, leads_of_follow⟩

theorem isDirectoryAt_targetStart (directory : IsDirectoryAt store here) (target : String) :
    IsDirectoryAt store (targetStart here target) := by
  unfold targetStart
  split
  · exact isDirectoryAt_root
  · exact directory

theorem isDirectoryAt_startOf (formed : WellFormed store) (path : String) :
    IsDirectoryAt store (store.startOf path) := by
  unfold startOf
  split
  · exact isDirectoryAt_root
  · exact formed.current

def Progress.Sound (store : Store) : Progress → Prop
  | .arrived place entry => store.get? place = some entry
  | .missing place => store.get? place = none ∧ IsDirectoryAt store place.dropLast
  | .linked directory _ _ => IsDirectoryAt store directory

theorem advance_sound (formed : WellFormed store) (directory : IsDirectoryAt store here)
    {progress : Progress} (came : store.advance through here steps = .ok progress) :
    progress.Sound store := by
  have walks := walks_iff.mpr came
  clear came
  induction walks with
  | here found => exact found
  | dot _ ih => exact ih directory
  | up _ ih => exact ih (formed.dropLast directory)
  | missing _ absent => exact ⟨absent, by rwa [List.dropLast_concat]⟩
  | into _ found _ ih => exact ih (isDirectoryAt_iff.mpr ⟨_, found⟩)
  | linked => exact directory
  | arrived _ found => exact found

def Spot.Sound (store : Store) : Spot → Prop
  | .taken place entry => store.get? place = some entry
  | .vacant place => store.get? place = none ∧ IsDirectoryAt store place.dropLast

theorem Leads.sound (formed : WellFormed store) (leads : Leads store through links here steps spot)
    (directory : IsDirectoryAt store here) : spot.Sound store := by
  induction leads with
  | arrived came => exact advance_sound formed directory came
  | missing came => exact advance_sound formed directory came
  | linked came _ ih => exact ih (isDirectoryAt_targetStart (advance_sound formed directory came) _)

/-- How a walk with more names goes on from where the first ones led. -/
def Progress.goOn (store : Store) (through : Bool) (more : List String) :
    Progress → Except IoCause Progress
  | .arrived place (.directory _) => store.advance through place more
  | .arrived .. => .error .notDirectory
  | .missing _ => .error .notFound
  | .linked directory target rest => .ok (.linked directory target (rest ++ more))

theorem advance_append (formed : WellFormed store) (directory : IsDirectoryAt store here)
    (nonempty : more ≠ []) :
    store.advance through here (steps ++ more) =
      (store.advance true here steps).bind (Progress.goOn store through more) := by
  induction steps generalizing here with
  | nil =>
      obtain ⟨mode, found⟩ := isDirectoryAt_iff.mp directory
      simp [advance, found, Except.bind, Progress.goOn]
  | cons name rest ih =>
      have longer : (rest ++ more).isEmpty = false := by simp [nonempty]
      rw [List.cons_append, advance, advance]
      split
      · exact ih directory
      split
      · exact ih (formed.dropLast directory)
      split
      · rfl
      simp only [longer, Bool.false_eq_true, ↓reduceIte, Bool.false_and, Bool.not_true, Bool.and_false]
      split
      · split <;> rfl
      · next mode found => exact ih (isDirectoryAt_iff.mpr ⟨mode, found⟩)
      · rfl
      · next entry notDirectory notLink found =>
          split
          · cases entry with
            | directory mode => exact absurd rfl (notDirectory mode)
            | _ => rfl
          · rfl

theorem goOn_eq_ok {progress result : Progress} (went : progress.goOn store through more = .ok result) :
    (∃ place mode, progress = .arrived place (.directory mode) ∧
      store.advance through place more = .ok result) ∨
    ∃ directory target rest, progress = .linked directory target rest ∧
      result = .linked directory target (rest ++ more) := by
  match progress with
  | .arrived place (.directory mode) => exact .inl ⟨place, mode, rfl, went⟩
  | .linked directory target rest =>
      exact .inr ⟨directory, target, rest, rfl, (Except.ok.inj went).symm⟩
  | .arrived _ (.file ..) | .arrived _ (.link _) | .arrived _ .sink | .missing _ => cases went

theorem advance_append_eq_ok (formed : WellFormed store) (directory : IsDirectoryAt store here)
    (nonempty : more ≠ []) {result : Progress}
    (came : store.advance through here (steps ++ more) = .ok result) :
    (∃ place mode, store.advance true here steps = .ok (.arrived place (.directory mode)) ∧
      store.advance through place more = .ok result) ∨
    ∃ inner target rest, store.advance true here steps = .ok (.linked inner target rest) ∧
      result = .linked inner target (rest ++ more) := by
  rw [advance_append formed directory nonempty] at came
  cases first : store.advance true here steps with
  | error cause =>
      rw [first] at came
      cases came
  | ok progress =>
      rw [first] at came
      rcases goOn_eq_ok came with ⟨place, mode, rfl, later⟩ | ⟨inner, target, rest, rfl, same⟩
      · exact .inl ⟨place, mode, rfl, later⟩
      · exact .inr ⟨inner, target, rest, rfl, same⟩

theorem Leads.of_le {limit : Nat} (leads : Leads store through links here steps spot)
    (fits : links ≤ limit) : Leads store through limit here steps spot := by
  induction leads generalizing limit with
  | arrived came => exact .arrived came
  | missing came => exact .missing came
  | linked came _ ih =>
      obtain ⟨limit, rfl⟩ := Nat.exists_eq_succ_of_ne_zero (Nat.ne_zero_of_lt fits)
      exact .linked came (ih (Nat.le_of_succ_le_succ fits))

/-- Names that lead to a directory may be walked first, and the others from there with the links that
are left. -/
theorem Leads.follow_append (formed : WellFormed store) {mode : Nat}
    (leads : Leads store true links here steps (.taken place (.directory mode)))
    (directory : IsDirectoryAt store here) :
    ∃ left ≤ links, ∀ through more, more ≠ [] →
      store.follow through links here (steps ++ more) = store.follow through left place more := by
  generalize ended : Spot.taken place (.directory mode) = spot at leads
  induction leads with
  | @arrived links _ _ _ _ came =>
      cases ended
      refine ⟨links, Nat.le_refl _, fun through more nonempty => ?_⟩
      rw [follow, follow, advance_append formed directory nonempty, came]
      rfl
  | missing => cases ended
  | linked came _ ih =>
      have inner := advance_sound formed directory came
      obtain ⟨left, fewer, goes⟩ := ih (isDirectoryAt_targetStart inner _) ended
      refine ⟨left, Nat.le_succ_of_le fewer, fun through more nonempty => ?_⟩
      rw [follow, advance_append formed directory nonempty, came, ← goes through more nonempty,
        List.append_assoc]
      rfl

/-- A walk that comes to a spot has passed a directory wherever it is cut. -/
theorem Leads.directory_before (formed : WellFormed store) (nonempty : more ≠ [])
    (leads : Leads store through links here (steps ++ more) spot)
    (directory : IsDirectoryAt store here) :
    ∃ place mode, Leads store true links here steps (.taken place (.directory mode)) := by
  generalize whole : steps ++ more = all at leads
  induction leads generalizing steps with
  | arrived came =>
      subst whole
      rcases advance_append_eq_ok formed directory nonempty came with
        ⟨place, mode, first, _⟩ | ⟨_, _, _, _, same⟩
      · exact ⟨place, mode, .arrived first⟩
      · cases same
  | missing came =>
      subst whole
      rcases advance_append_eq_ok formed directory nonempty came with
        ⟨place, mode, first, _⟩ | ⟨_, _, _, _, same⟩
      · exact ⟨place, mode, .arrived first⟩
      · cases same
  | @linked links _ inner _ _ target _ came _ ih =>
      subst whole
      rcases advance_append_eq_ok formed directory nonempty came with
        ⟨place, mode, first, _⟩ | ⟨_, _, rest, first, same⟩
      · exact ⟨place, mode, .arrived first⟩
      · obtain ⟨rfl, rfl, rfl⟩ := Progress.linked.inj same
        have inside : IsDirectoryAt store inner := advance_sound formed directory first
        obtain ⟨place, mode, led⟩ :=
          ih (isDirectoryAt_targetStart inside target) (List.append_assoc ..)
        exact ⟨place, mode, .linked first led⟩

theorem advance_keeps (keeps : Keeps before after) {progress : Progress}
    (came : before.advance true here steps = .ok progress)
    (filled : ∀ place, progress = .missing place → IsDirectoryAt after place) :
    ∃ other, after.advance true here steps = .ok other ∧ progress.Kept other := by
  have walks := walks_iff.mpr came
  clear came
  simp only [← walks_iff]
  induction walks with
  | here found =>
      obtain ⟨other, kept, alike⟩ := keeps.entry _ _ found
      exact ⟨_, .here kept, .arrived alike⟩
  | dot _ ih =>
      obtain ⟨other, walks, kept⟩ := ih filled
      exact ⟨other, .dot walks, kept⟩
  | up _ ih =>
      obtain ⟨other, walks, kept⟩ := ih filled
      exact ⟨other, .up walks, kept⟩
  | missing looked absent =>
      obtain ⟨mode, found⟩ := isDirectoryAt_iff.mp (filled _ rfl)
      exact ⟨_, .into looked found (.here found), .filled _ mode⟩
  | into looked found _ ih =>
      obtain ⟨other, kept, alike⟩ := keeps.entry _ _ found
      obtain ⟨reached, walks, same⟩ := ih filled
      cases alike with
      | same => exact ⟨reached, .into looked kept walks, same⟩
      | directory => exact ⟨reached, .into looked kept walks, same⟩
  | linked looked found follows =>
      obtain ⟨other, kept, alike⟩ := keeps.entry _ _ found
      cases alike
      exact ⟨_, .linked looked kept follows, .linked ..⟩
  | arrived looked found leaf stays =>
      obtain ⟨other, kept, alike⟩ := keeps.entry _ _ found
      cases alike with
      | same => exact ⟨_, .arrived looked kept leaf stays, .arrived (.same _)⟩
      | directory => cases leaf

theorem Leads.keeps (keeps : Keeps before after) (leads : Leads before true links here steps spot)
    (filled : ∀ place, spot = .vacant place → IsDirectoryAt after place) :
    ∃ other, Leads after true links here steps other ∧ spot.Kept other := by
  induction leads with
  | arrived came =>
      obtain ⟨_, kept, alike⟩ := advance_keeps keeps came (fun _ same => by cases same)
      cases alike with
      | arrived alike => exact ⟨_, .arrived kept, .taken alike⟩
  | @missing _ _ place _ came =>
      obtain ⟨_, kept, alike⟩ := advance_keeps keeps came (fun _ same => by
        cases same
        exact filled place rfl)
      cases alike with
      | filled _ mode => exact ⟨_, .arrived kept, .filled place mode⟩
  | linked came _ ih =>
      obtain ⟨_, kept, alike⟩ := advance_keeps keeps came (fun _ same => by cases same)
      cases alike with
      | linked =>
          obtain ⟨other, later, alike⟩ := ih filled
          exact ⟨other, .linked kept later, alike⟩

/-- Where nothing is, it does not matter whether a last link counts. -/
theorem advance_through {progress : Progress} (came : store.advance false here steps = .ok progress)
    (short : ∀ place entry, progress ≠ .arrived place entry) :
    store.advance true here steps = .ok progress := by
  have walks := walks_iff.mpr came
  clear came
  refine walks_iff.mp ?_
  induction walks with
  | here => exact absurd rfl (short _ _)
  | dot _ ih => exact .dot (ih short)
  | up _ ih => exact .up (ih short)
  | missing looked absent => exact .missing looked absent
  | into looked found _ ih => exact .into looked found (ih short)
  | linked looked found => exact .linked looked found fun _ => rfl
  | arrived => exact absurd rfl (short _ _)

theorem Leads.of_vacant (leads : Leads store false links here steps (.vacant place)) :
    Leads store true links here steps (.vacant place) := by
  generalize ended : Spot.vacant place = spot at leads
  induction leads with
  | arrived => cases ended
  | missing came => exact .missing (advance_through came (by simp))
  | linked came _ ih =>
      -- The walk goes on through the target with the last name, so only its end is looked at.
      exact .linked (advance_through came (by simp)) (ih ended)

theorem advance_dots (dots : ∀ name ∈ idle, name = ".") :
    store.advance through here (idle ++ more) = store.advance through here more := by
  induction idle with
  | nil => rfl
  | cons name rest ih =>
      rw [List.cons_append, dots name List.mem_cons_self, advance]
      exact ih fun name member => dots name (List.mem_cons_of_mem _ member)

theorem follow_dots (dots : ∀ name ∈ idle, name = ".") :
    store.follow through links here (idle ++ more) = store.follow through links here more := by
  rw [follow, advance_dots dots, follow]

theorem follow_here {mode : Nat} (dots : ∀ name ∈ idle, name = ".")
    (found : store.get? here = some (.directory mode)) :
    store.follow through links here idle = .ok (.taken here (.directory mode)) := by
  rw [← List.append_nil idle, follow_dots dots, follow, advance, found]

theorem leads_dots_iff (formed : WellFormed store) (directory : IsDirectoryAt store here)
    (dots : ∀ name ∈ idle, name = ".") {mode : Nat} :
    Leads store true links here (steps ++ idle) (.taken place (.directory mode)) ↔
      Leads store true links here steps (.taken place (.directory mode)) := by
  by_cases none : idle = []
  · rw [none, List.append_nil]
  constructor
  · intro leads
    obtain ⟨before, other, first⟩ := leads.directory_before formed none directory
    obtain ⟨left, -, goes⟩ := first.follow_append formed directory
    have found : store.get? before = some (.directory other) := first.sound formed directory
    have whole := leads.follow_eq
    rw [goes true idle none, follow_here dots found] at whole
    cases whole
    exact first
  · intro leads
    obtain ⟨left, -, goes⟩ := leads.follow_append formed directory
    have found : store.get? place = some (.directory mode) := leads.sound formed directory
    rw [leads_iff, goes true idle none, follow_here dots found]

variable {path parent : String}

theorem stepsOf_split (path : String) :
    ∃ idle, (∀ name ∈ idle, name = ".") ∧ stepsOf path = Path.parts path ++ idle := by
  unfold stepsOf
  split
  · exact ⟨["."], by simp, rfl⟩
  · exact ⟨[], by simp, rfl⟩

theorem locateSteps_eq_ok_iff : store.locateSteps through path steps = .ok spot ↔
    refusedPath path = none ∧ Leads store through linkLimit (store.startOf path) steps spot := by
  unfold locateSteps
  rw [leads_iff]
  split
  · next cause refused => simp [refused]
  · next accepted => simp [accepted]

theorem entryAt_eq_ok_iff : store.entryAt through path = .ok (place, entry) ↔
    refusedPath path = none ∧
      Leads store through linkLimit (store.startOf path) (stepsOf path) (.taken place entry) := by
  rw [← locateSteps_eq_ok_iff]
  unfold entryAt locate
  split
  · next failed => simp [failed]
  · next vacant => simp [vacant]
  · next taken => simp [taken]

theorem entryAt_directory_iff (formed : WellFormed store) {mode : Nat} :
    store.entryAt true path = .ok (place, .directory mode) ↔
      refusedPath path = none ∧ Leads store true linkLimit (store.startOf path) (Path.parts path)
        (.taken place (.directory mode)) := by
  obtain ⟨idle, dots, split⟩ := stepsOf_split path
  rw [entryAt_eq_ok_iff, split, leads_dots_iff formed (isDirectoryAt_startOf formed path) dots]

theorem isPresent_iff : store.isPresent path = true ↔
    ∃ place entry, store.entryAt true path = .ok (place, entry) := by
  unfold isPresent entry?
  split
  · next found => simp [found]
  · next failed => simp [failed]

theorem isDirectory_iff : store.isDirectory path = true ↔
    ∃ place mode, store.entryAt true path = .ok (place, .directory mode) := by
  unfold isDirectory entry?
  split
  · next place entry found => cases entry <;> simp [found, Entry.isDirectory]
  · next failed => simp [failed]

theorem isPresent_of_isDirectory (directory : store.isDirectory path = true) :
    store.isPresent path = true := by
  obtain ⟨place, mode, found⟩ := isDirectory_iff.mp directory
  exact isPresent_iff.mpr ⟨place, _, found⟩

theorem get?_of_entryAt (formed : WellFormed store)
    (found : store.entryAt true path = .ok (place, entry)) : store.get? place = some entry := by
  obtain ⟨_, leads⟩ := entryAt_eq_ok_iff.mp found
  exact leads.sound formed (isDirectoryAt_startOf formed path)

theorem entryAt_keeps (keeps : Keeps before after)
    (found : before.entryAt true path = .ok (place, entry)) :
    ∃ other, after.entryAt true path = .ok (place, other) ∧ entry.Alike other := by
  obtain ⟨accepted, leads⟩ := entryAt_eq_ok_iff.mp found
  obtain ⟨_, later, kept⟩ := leads.keeps keeps (fun _ same => by cases same)
  cases kept with
  | taken alike =>
      have start : after.startOf path = before.startOf path := by rw [startOf, startOf, keeps.current]
      exact ⟨_, entryAt_eq_ok_iff.mpr ⟨accepted, start ▸ later⟩, alike⟩

theorem entryAt_keeps_directory (keeps : Keeps before after) {mode : Nat}
    (led : before.entryAt true path = .ok (place, .directory mode)) :
    ∃ other, after.entryAt true path = .ok (place, .directory other) := by
  obtain ⟨_, kept, alike⟩ := entryAt_keeps keeps led
  cases alike with
  | same => exact ⟨mode, kept⟩
  | directory _ other => exact ⟨other, kept⟩

theorem refusedPath_eq_none_iff : refusedPath path = none ↔
    '\x00' ∉ path.toList ∧ path ≠ "" ∧ path.utf8ByteSize < pathLimit := by
  unfold refusedPath
  split
  · next nul => simp at nul; simp [nul]
  next noNul =>
  split
  · next empty => simp at empty; simp [empty]
  next nonempty =>
  split
  · next long => simp; omega
  · next short => simp_all

theorem refusedPath_parent (found : Path.parent? path = some parent) (proper : parent ≠ "")
    (accepted : refusedPath path = none) : refusedPath parent = none := by
  obtain ⟨rest, whole⟩ := Path.parent?_prefix found
  have text : path = parent ++ String.ofList rest :=
    String.toList_injective (by rw [String.toList_append, String.toList_ofList, whole])
  rw [refusedPath_eq_none_iff] at accepted ⊢
  obtain ⟨noNul, -, short⟩ := accepted
  refine ⟨fun nul => noNul ?_, proper, ?_⟩
  · rw [← whole]
    exact List.mem_append_left _ nul
  · rw [text, String.utf8ByteSize_append] at short
    omega

theorem startOf_parent (found : Path.parent? path = some parent) (proper : parent ≠ "") :
    store.startOf parent = store.startOf path := by
  rw [startOf, startOf, Path.parent?_isAbsolute found proper]

theorem isDirectory_parent (formed : WellFormed store) (found : Path.parent? path = some parent)
    (proper : parent ≠ "") (present : store.isPresent path = true) :
    store.isDirectory parent = true := by
  obtain ⟨place, entry, located⟩ := isPresent_iff.mp present
  obtain ⟨accepted, leads⟩ := entryAt_eq_ok_iff.mp located
  obtain ⟨idle, -, steps⟩ := stepsOf_split path
  obtain ⟨dots, name, behind, parts, -⟩ := Path.parts_of_parent found proper
  rw [steps, parts, List.append_assoc] at leads
  obtain ⟨directory, mode, first⟩ :=
    leads.directory_before formed (by simp) (isDirectoryAt_startOf formed path)
  rw [← startOf_parent found proper] at first
  have acceptedParent := refusedPath_parent found proper accepted
  exact isDirectory_iff.mpr
    ⟨directory, mode, (entryAt_directory_iff formed).mpr ⟨acceptedParent, first⟩⟩

theorem Leads.vacant_of_absent {name : String} (notDot : name ≠ ".") (notUp : name ≠ "..")
    (absent : store.get? (here ++ [name]) = none)
    (leads : Leads store through links here (name :: more) spot) : spot = .vacant (here ++ [name]) := by
  have missed : ∀ progress, store.advance through here (name :: more) = .ok progress →
      progress = .missing (here ++ [name]) := by
    intro progress came
    cases walks_iff.mpr came with
    | dot => contradiction
    | up => contradiction
    | missing => rfl
    | into _ found => cases absent.symm.trans found
    | linked _ found => cases absent.symm.trans found
    | arrived _ found => cases absent.symm.trans found
  cases leads with
  | arrived came => cases missed _ came
  | missing came =>
      cases missed _ came
      rfl
  | linked came _ => cases missed _ came

theorem follow_into {name : String} {mode : Nat} (notDot : name ≠ ".") (notUp : name ≠ "..")
    (short : ¬ nameLimit < name.utf8ByteSize)
    (found : store.get? (here ++ [name]) = some (.directory mode)) (dots : ∀ dot ∈ idle, dot = ".") :
    store.follow through links here (name :: idle) =
      .ok (.taken (here ++ [name]) (.directory mode)) := by
  rw [follow, advance_into ⟨notDot, notUp, short⟩ found, ← follow]
  exact follow_here dots found

/-- The spot that a place is. -/
def spotAt (store : Store) (place : Location) : Spot :=
  match store.get? place with
  | some entry => .taken place entry
  | none => .vacant place

theorem spotAt_place (store : Store) (place : Location) : (store.spotAt place).place = place := by
  unfold spotAt
  split <;> rfl

theorem entry?_spotAt (store : Store) (place : Location) :
    Spot.entry? (store.spotAt place) = store.get? place := by
  unfold spotAt
  cases store.get? place <;> rfl

theorem follow_last_eq_ok_iff {name : String} (notDot : name ≠ ".") (notUp : name ≠ "..") :
    store.follow false links here [name] = .ok spot ↔
      ¬ nameLimit < name.utf8ByteSize ∧ spot = store.spotAt (here ++ [name]) := by
  have goes : store.advance false here [name] =
      if nameLimit < name.utf8ByteSize then .error .nameTooLong
      else match store.get? (here ++ [name]) with
        | some entry => .ok (.arrived (here ++ [name]) entry)
        | none => .ok (.missing (here ++ [name])) := by
    simp only [advance, if_neg notDot, if_neg notUp]
    split
    · rfl
    · cases found : store.get? (here ++ [name]) with
      | none => rfl
      | some entry => cases entry <;> simp
  rw [follow, goes, spotAt]
  by_cases long : nameLimit < name.utf8ByteSize
  · simp [long]
  · cases store.get? (here ++ [name]) <;> simp [long, eq_comm]

/-- A path into an empty directory leads to a free place in it. -/
theorem Leads.vacant_of_empty (formed : WellFormed store) (found : Path.parent? path = some parent)
    (proper : parent ≠ "") (downward : Path.endsUp path = false) {mode : Nat}
    (led : store.entryAt true parent = .ok (place, .directory mode))
    (empty : ∀ name, store.get? (place ++ [name]) = none)
    (leads : Leads store through linkLimit (store.startOf path) (Path.parts path ++ more) spot) :
    ∃ name, spot = .vacant (place ++ [name]) := by
  obtain ⟨-, first⟩ := (entryAt_directory_iff formed).mp led
  obtain ⟨dots, name, behind, parts, notDot, skipped, idle⟩ := Path.parts_of_parent found proper
  have notUp : name ≠ ".." := fun up => Bool.eq_false_iff.mp downward
    ((Path.endsUp_iff (parts.trans (List.append_assoc ..).symm) notDot idle).mpr up)
  rw [startOf_parent found proper] at first
  obtain ⟨left, -, goes⟩ := first.follow_append formed (isDirectoryAt_startOf formed path)
  have walked := leads.follow_eq
  rw [parts, List.append_assoc, goes through _ (by simp), List.append_assoc,
    follow_dots skipped] at walked
  exact ⟨name, (leads_of_follow walked).vacant_of_absent notDot notUp (empty name)⟩

theorem isPresent_of_empty (formed : WellFormed store) (found : Path.parent? path = some parent)
    (proper : parent ≠ "") (downward : Path.endsUp path = false) {mode : Nat}
    (led : store.entryAt true parent = .ok (place, .directory mode))
    (empty : ∀ name, store.get? (place ++ [name]) = none) : store.isPresent path = false := by
  refine Bool.eq_false_iff.mpr fun present => ?_
  obtain ⟨other, entry, located⟩ := isPresent_iff.mp present
  obtain ⟨-, leads⟩ := entryAt_eq_ok_iff.mp located
  obtain ⟨idle, -, steps⟩ := stepsOf_split path
  rw [steps] at leads
  obtain ⟨name, same⟩ := leads.vacant_of_empty formed found proper downward led empty
  cases same

end Groundwork.Store
