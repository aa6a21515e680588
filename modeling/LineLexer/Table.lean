/-!
# Tables

Finite maps from names. The entries of a table ascend by their keys, so there is one at most for
each key.
-/

namespace LineLexer

/-- Entries in ascending order of their keys, all of which are above `bound`. -/
inductive Ascending (α : Type) : Option String → Type where
  | nil {bound : Option String} : Ascending α bound
  | cons {bound : Option String} (key : String) (value : α) (above : ∀ low ∈ bound, low < key)
      (rest : Ascending α (some key)) : Ascending α bound

namespace Ascending

variable {α : Type}

theorem above_of_lt {key other : String} (h : other < key) : ∀ low ∈ some other, low < key := by
  rintro _ ⟨⟩
  exact h

def entries {bound : Option String} : Ascending α bound → List (String × α)
  | .nil => []
  | .cons key value _ rest => (key, value) :: rest.entries

def find? {bound : Option String} (key : String) : Ascending α bound → Option α
  | .nil => none
  | .cons other value _ rest => if key = other then some value else rest.find? key

/-- Puts an entry in its place, or changes the one that is there. -/
def insert {bound : Option String} (key : String) (value : α) (hkey : ∀ low ∈ bound, low < key) :
    Ascending α bound → Ascending α bound
  | .nil => .cons key value hkey .nil
  | .cons other previous above rest =>
    if hsame : key = other then .cons other value above rest
    else if hless : key < other then
      .cons key value hkey (.cons other previous (above_of_lt hless) rest)
    else
      have hmore : other < key := Std.lt_of_le_of_ne (String.not_lt.1 hless) (Ne.symm hsame)
      .cons other previous above (rest.insert key value (above_of_lt hmore))

/-- The same entries above a lower bound. -/
def lower {bound : Option String} {middle : String} (h : ∀ low ∈ bound, low < middle) :
    Ascending α (some middle) → Ascending α bound
  | .nil => .nil
  | .cons key value above rest =>
    .cons key value (fun low hlow ↦ String.lt_trans (h low hlow) (above middle rfl)) rest

def erase {bound : Option String} (key : String) : Ascending α bound → Ascending α bound
  | .nil => .nil
  | .cons other value above rest =>
    if key = other then rest.lower above else .cons other value above (rest.erase key)

variable {bound : Option String}

theorem find?_insert (table : Ascending α bound) {key : String} (hkey : ∀ low ∈ bound, low < key)
    (other : String) (value : α) :
    (table.insert key value hkey).find? other = if other = key then some value else table.find? other := by
  induction table with
  | nil => rfl
  | cons head previous above rest ih =>
    by_cases hsame : key = head
    · subst hsame
      by_cases hother : other = key <;> simp [insert, find?, hother]
    · rw [insert, dif_neg hsame]
      split
      · by_cases hother : other = key <;> simp [find?, hother]
      · rw [find?, ih, find?]
        by_cases hother : other = key
        · subst hother
          simp [hsame]
        · simp [hother]

theorem find?_lower {middle : String} (table : Ascending α (some middle))
    (h : ∀ low ∈ bound, low < middle) (key : String) : (table.lower h).find? key = table.find? key := by
  cases table <;> rfl

/-- There is nothing at the bound or below. -/
theorem find?_of_le {low key : String} (table : Ascending α (some low)) (h : key ≤ low) :
    table.find? key = none := by
  generalize hbound : some low = bound at table
  induction table generalizing low with
  | nil => rfl
  | cons head value above rest ih =>
    subst hbound
    have hless : key < head := Std.lt_of_le_of_lt h (above low rfl)
    rw [find?, if_neg (String.ne_of_lt hless)]
    exact ih (Std.le_of_lt hless) rfl

theorem find?_erase (table : Ascending α bound) (key other : String) :
    (table.erase key).find? other = if other = key then none else table.find? other := by
  induction table with
  | nil => simp [erase, find?]
  | cons head value above rest ih =>
    rw [erase]
    by_cases hsame : key = head
    · subst hsame
      rw [if_pos rfl, find?_lower, find?]
      by_cases hother : other = key
      · subst hother
        rw [if_pos rfl, find?_of_le rest (String.le_refl other)]
      · rw [if_neg hother, if_neg hother]
    · rw [if_neg hsame, find?, ih, find?]
      by_cases hother : other = key
      · subst hother
        simp [hsame]
      · simp [hother]

theorem mem_entries_of_find? {table : Ascending α bound} {key : String} {value : α}
    (h : table.find? key = some value) : (key, value) ∈ table.entries := by
  induction table with
  | nil => cases h
  | cons head previous above rest ih =>
    rw [find?] at h
    split at h
    · rename_i hsame
      cases h
      rw [hsame]
      exact List.mem_cons_self
    · exact List.mem_cons_of_mem _ (ih h)

end Ascending

structure Table (α : Type) where
  ascending : Ascending α none := .nil

namespace Table

variable {α : Type}

def empty : Table α := {}

def entries (table : Table α) : List (String × α) := table.ascending.entries

def find? (table : Table α) (key : String) : Option α := table.ascending.find? key

def contains (table : Table α) (key : String) : Bool := (table.find? key).isSome

def insert (table : Table α) (key : String) (value : α) : Table α :=
  ⟨table.ascending.insert key value fun low hlow ↦ absurd hlow (Option.not_mem_none low)⟩

def erase (table : Table α) (key : String) : Table α := ⟨table.ascending.erase key⟩

def keys (table : Table α) : List String := table.entries.map Prod.fst

def size (table : Table α) : Nat := table.entries.length

def ofList (entries : List (String × α)) : Table α :=
  entries.foldl (fun table (key, value) ↦ table.insert key value) empty

/-- The entries of both tables, where those of `upper` win. -/
def overlay (table upper : Table α) : Table α :=
  upper.entries.foldl (fun table (key, value) ↦ table.insert key value) table

theorem find?_insert (table : Table α) (key other : String) (value : α) :
    (table.insert key value).find? other = if other = key then some value else table.find? other :=
  table.ascending.find?_insert _ other value

theorem find?_erase (table : Table α) (key other : String) :
    (table.erase key).find? other = if other = key then none else table.find? other :=
  table.ascending.find?_erase key other

theorem mem_entries_of_find? {table : Table α} {key : String} {value : α}
    (h : table.find? key = some value) : (key, value) ∈ table.entries :=
  Ascending.mem_entries_of_find? h

theorem mem_keys_of_find? {table : Table α} {key : String} {value : α}
    (h : table.find? key = some value) : key ∈ table.keys :=
  List.mem_map_of_mem (mem_entries_of_find? h)

end Table

end LineLexer
