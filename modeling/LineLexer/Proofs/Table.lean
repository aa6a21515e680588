import LineLexer.Table

/-!
# Tables in order

The keys of a table ascend, so it holds each key once, and what it holds after entries have been put
into it one by one is told key by key.
-/

namespace LineLexer.Table

variable {α β : Type}

/-- What is found under a key after entries in order have been put in: what its value makes of what
was there, or what was there. -/
theorem find?_foldl_ascending {bound : Option String} (entries : Ascending β bound) (table : Table α)
    (update : Option α → β → α) (key : String) :
    (entries.entries.foldl (fun table entry ↦
        table.insert entry.1 (update (table.find? entry.1) entry.2)) table).find? key =
      ((entries.find? key).map (update (table.find? key))).or (table.find? key) := by
  induction entries generalizing table with
  | nil => rfl
  | cons head value above rest ih =>
    rw [Ascending.entries, List.foldl_cons, ih, find?_insert, Ascending.find?]
    by_cases hkey : key = head
    · -- The key is passed for good: the entries behind it are above it.
      subst hkey
      rw [Ascending.find?_of_le rest (String.le_refl key)]
      simp
    · simp [hkey]

/-- Updating a table by the entries of another changes each key once. -/
theorem find?_foldl_update (entries : Table β) (table : Table α) (update : Option α → β → α)
    (key : String) :
    (entries.entries.foldl (fun table entry ↦
        table.insert entry.1 (update (table.find? entry.1) entry.2)) table).find? key =
      ((entries.find? key).map (update (table.find? key))).or (table.find? key) :=
  find?_foldl_ascending entries.ascending table update key

/-- The upper table shows, and the lower one where the upper has nothing. -/
theorem find?_overlay (table upper : Table α) (key : String) :
    (table.overlay upper).find? key = (upper.find? key).or (table.find? key) := by
  have hfold := find?_foldl_update upper table (fun _ value ↦ value) key
  rw [overlay, hfold, Option.map_id']

/-- What neither table has, their overlay does not have. -/
theorem find?_overlay_eq_none {table upper : Table α} {key : String}
    (h : table.find? key = none) (hupper : upper.find? key = none) :
    (table.overlay upper).find? key = none := by
  rw [find?_overlay, hupper, h, Option.or_none]

end LineLexer.Table
