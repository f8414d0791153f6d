namespace Groundwork

/-! Tables: entries sorted by key, one entry a key.

`Table` is a plain list so that it can hold values that contain tables themselves.  Every operation
below keeps a sorted table sorted; `Table.Sorted` states what that means.
-/

abbrev Table (α : Type u) := List (String × α)

namespace Table

variable {α : Type u} {β : Type v}

def Sorted (table : Table α) : Prop :=
  table.Pairwise (fun earlier later => earlier.1 < later.1)

instance (table : Table α) : Decidable table.Sorted :=
  inferInstanceAs (Decidable (List.Pairwise _ table))

def get? (key : String) : Table α → Option α
  | [] => none
  | (other, value) :: rest => if key = other then some value else get? key rest

def contains (key : String) (table : Table α) : Bool :=
  (get? key table).isSome

/-- Writes the value at its key's place in the order; a value already there is replaced. -/
def insert (key : String) (value : α) : Table α → Table α
  | [] => [(key, value)]
  | (other, previous) :: rest =>
      if key = other then (key, value) :: rest
      else if key < other then (key, value) :: (other, previous) :: rest
      else (other, previous) :: insert key value rest

def erase (key : String) (table : Table α) : Table α :=
  table.filter (fun entry => entry.1 ≠ key)

def keys (table : Table α) : List String :=
  table.map Prod.fst

/-- The entries of `later` written over those of `table`. -/
def merge (table later : Table α) : Table α :=
  later.foldl (fun merged entry => insert entry.1 entry.2 merged) table

/-- Of two entries with one key the later stays. -/
def ofList (entries : List (String × α)) : Table α :=
  merge [] entries

def mapValues (convert : α → β) (table : Table α) : Table β :=
  table.map (fun entry => (entry.1, convert entry.2))

@[simp] theorem get?_nil (key : String) : get? key ([] : Table α) = none := rfl

theorem get?_insert (key other : String) (value : α) (table : Table α) :
    get? other (insert key value table) = if other = key then some value else get? other table := by
  induction table with
  | nil => simp [insert, get?]
  | cons entry rest ih =>
      obtain ⟨present, previous⟩ := entry
      unfold insert
      split
      · next same => subst same; by_cases found : other = key <;> simp [get?, found]
      · split
        · simp [get?]
        · simp only [get?, ih]
          by_cases here : other = present
          · subst here
            have different : other ≠ key := fun same => by simp_all
            simp [different]
          · simp [here]

theorem get?_insert_self (key : String) (value : α) (table : Table α) :
    get? key (insert key value table) = some value := by
  simp [get?_insert]

theorem mem_insert {key : String} {value : α} {table : Table α} {entry : String × α}
    (member : entry ∈ insert key value table) : entry = (key, value) ∨ entry ∈ table := by
  induction table with
  | nil => simpa [insert] using member
  | cons present rest ih =>
      unfold insert at member
      split at member
      · rcases List.mem_cons.1 member with rfl | later
        · exact .inl rfl
        · exact .inr (List.mem_cons_of_mem _ later)
      · split at member
        · rcases List.mem_cons.1 member with rfl | later
          · exact .inl rfl
          · exact .inr later
        · rcases List.mem_cons.1 member with rfl | later
          · exact .inr (List.mem_cons_self ..)
          · exact (ih later).imp_right (List.mem_cons_of_mem _)

theorem Sorted.insert {table : Table α} (sorted : table.Sorted) (key : String) (value : α) :
    Sorted (Table.insert key value table) := by
  induction table with
  | nil => simp [Sorted, Table.insert]
  | cons entry rest ih =>
      obtain ⟨present, previous⟩ := entry
      have ordered := List.pairwise_cons.1 sorted
      unfold Table.insert
      split
      · next same =>
          subst same
          exact List.pairwise_cons.2 ⟨ordered.1, ordered.2⟩
      · next different =>
          split
          · next before =>
              refine List.pairwise_cons.2 ⟨?_, sorted⟩
              intro other member
              rcases List.mem_cons.1 member with rfl | later
              · exact before
              · exact Std.lt_trans before (ordered.1 other later)
          · next notBefore =>
              refine List.pairwise_cons.2 ⟨?_, ih ordered.2⟩
              intro other member
              rcases mem_insert member with rfl | later
              · rcases Std.lt_trichotomy (a := key) (b := present) with less | same | greater
                · exact absurd less notBefore
                · exact absurd same different
                · exact greater
              · exact ordered.1 other later

theorem Sorted.merge {table : Table α} (sorted : table.Sorted) (later : Table α) :
    Sorted (Table.merge table later) := by
  induction later generalizing table with
  | nil => exact sorted
  | cons entry rest ih => exact ih (sorted.insert entry.1 entry.2)

theorem sorted_ofList (entries : List (String × α)) : Sorted (ofList entries) :=
  (show Sorted ([] : Table α) from List.Pairwise.nil).merge entries

end Table

end Groundwork
