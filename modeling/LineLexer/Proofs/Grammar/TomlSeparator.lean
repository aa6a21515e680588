import LineLexer.Proofs.Grammar.TomlValue

/-!
# Commas in TOML values

Where an array or an inline table ends inside an inline table, a key is expected again, and so the
comma that comes next is an error. All else in a well-formed value is read without errors.
-/

namespace LineLexer.TomlGrammar

open Value

/-! ## Parts -/

/-- In each inline table of the value only the last entry may hold an array or a table. -/
inductive Value.NestsLast : Value → Prop where
  | integer (digits : Integer) : Value.NestsLast (.integer digits)
  | boolean (value : Bool) : Value.NestsLast (.boolean value)
  | string (quoted : BasicString) : Value.NestsLast (.string quoted)
  | array {items : List Value} (hitems : ∀ item ∈ items, Value.NestsLast item) :
      Value.NestsLast (.array items)
  | table {entries : List (BareKey × Value)}
      (hlast : ∀ entry ∈ entries.dropLast, entry.2.isNested = false)
      (hentries : ∀ entry ∈ entries, Value.NestsLast entry.2) : Value.NestsLast (.table entries)

/-- No part is a comma after an entry that holds an array or a table. -/
def Regular (parts : List Part) : Prop := ∀ part ∈ parts, part.role ≠ .entrySeparator true

theorem regular_furtherItems (items : List Value) :
    Regular (furtherItems items) ↔ ∀ item ∈ items, Regular item.parts := by
  induction items with
  | nil => simp [Regular, furtherItems]
  | cons item items ih =>
    simp only [Regular, furtherItems, List.forall_mem_cons, List.forall_mem_append] at ih ⊢
    rw [ih]
    simp [Part.blank]

theorem regular_partsOfItems (items : List Value) :
    Regular (partsOfItems items) ↔ ∀ item ∈ items, Regular item.parts := by
  cases items with
  | nil => simp [Regular, partsOfItems]
  | cons item items =>
    rw [← regular_furtherItems]
    simp [Regular, furtherItems, partsOfItems, Part.blank]

theorem regular_partsOfEntry (entry : BareKey × Value) :
    Regular (partsOfEntry entry) ↔ Regular entry.2.parts := by
  obtain ⟨key, value⟩ := entry
  simp [Regular, partsOfEntry, Part.blank]

/-- No comma follows a nested value, be it the value before or one of these. -/
theorem regular_furtherEntries (afterNested : Bool) (entries : List (BareKey × Value)) :
    Regular (furtherEntries afterNested entries) ↔
      (entries ≠ [] → afterNested = false) ∧
      (∀ entry ∈ entries.dropLast, entry.2.isNested = false) ∧
      ∀ entry ∈ entries, Regular entry.2.parts := by
  induction entries generalizing afterNested with
  | nil => simp [Regular, furtherEntries]
  | cons entry entries ih =>
    have hentry := regular_partsOfEntry entry
    simp only [Regular, furtherEntries, List.forall_mem_cons, List.forall_mem_append] at hentry ih ⊢
    rw [hentry, ih]
    cases entries <;> simp [Part.blank, and_assoc, and_left_comm]

/-- In a table only the last value is nested. -/
theorem regular_partsOfEntries (entries : List (BareKey × Value)) :
    Regular (partsOfEntries entries) ↔
      (∀ entry ∈ entries.dropLast, entry.2.isNested = false) ∧
      ∀ entry ∈ entries, Regular entry.2.parts := by
  cases entries with
  | nil => simp [Regular, partsOfEntries]
  | cons entry entries =>
    have hfurther := regular_furtherEntries false (entry :: entries)
    simp only [implies_true, true_and] at hfurther
    rw [← hfurther]
    simp [Regular, furtherEntries, partsOfEntries, Part.blank]

/-- The commas of a value are regular exactly if tables nest in their last entries alone. -/
theorem regular_parts (value : Value) : Regular value.parts ↔ value.NestsLast := by
  induction value with
  | integer digits => exact iff_of_true (by simp [Regular, parts]) (.integer digits)
  | boolean value => exact iff_of_true (by simp [Regular, parts]) (.boolean value)
  | string quoted => exact iff_of_true (by simp [Regular, parts]) (.string quoted)
  | array items ih =>
    have hparts : Regular (array items).parts ↔ Regular (partsOfItems items) := by
      simp [Regular, parts]
    rw [hparts, regular_partsOfItems]
    constructor
    · intro h
      exact .array fun item hitem ↦ (ih item hitem).1 (h item hitem)
    · rintro (_ | _ | _ | h | _) item hitem
      exact (ih item hitem).2 (h item hitem)
  | table entries ih =>
    have hparts : Regular (table entries).parts ↔ Regular (partsOfEntries entries) := by
      simp [Regular, parts]
    rw [hparts, regular_partsOfEntries]
    constructor
    · rintro ⟨hlast, h⟩
      exact .table hlast fun entry hentry ↦ (ih entry hentry).1 (h entry hentry)
    · rintro (_ | _ | _ | _ | ⟨hlast, h⟩)
      exact ⟨hlast, fun entry hentry ↦ (ih entry hentry).2 (h entry hentry)⟩

/-! ## Tokens -/

def Role.isSeparator : Role → Bool
  | .itemSeparator | .entrySeparator _ => true
  | _ => false

/-- No token is an error, and every comma between items or entries is punctuation. -/
structure Clean (parts : List Part) (tokens : List Token) : Prop where
  no_error : ∀ token ∈ tokens, token.cls ≠ some .error
  separators : ∀ pair ∈ parts.zip tokens, pair.1.role.isSeparator = true →
    pair.2.cls = some .punctuation

theorem clean_cons (part : Part) (parts : List Part) (token : Token) (tokens : List Token) :
    Clean (part :: parts) (token :: tokens) ↔
      (token.cls ≠ some .error ∧
        (part.role.isSeparator = true → token.cls = some .punctuation)) ∧ Clean parts tokens := by
  constructor
  · rintro ⟨hno_error, hseparators⟩
    simp only [List.zip_cons_cons, List.forall_mem_cons] at hno_error hseparators
    exact ⟨⟨hno_error.1, hseparators.1⟩, hno_error.2, hseparators.2⟩
  · rintro ⟨⟨herror, hseparator⟩, hno_error, hseparators⟩
    exact ⟨List.forall_mem_cons.2 ⟨herror, hno_error⟩,
      List.forall_mem_cons.2 ⟨hseparator, hseparators⟩⟩

/-- The tokens are clean exactly if the parts are regular. -/
theorem clean_tokensFrom (parts : List Part) (offset : Nat) :
    Clean parts (tokensFrom offset (parts.map Part.piece)) ↔ Regular parts := by
  induction parts generalizing offset with
  | nil => exact iff_of_true ⟨by simp [tokensFrom], by simp⟩ (by simp [Regular])
  | cons part parts ih =>
    have hrole : (part.role.cls ≠ some .error ∧
        (part.role.isSeparator = true → part.role.cls = some .punctuation)) ↔
          part.role ≠ .entrySeparator true := by
      cases part.role with
      | entrySeparator afterNested => cases afterNested <;> simp [Role.cls]
      | _ => simp [Role.cls, Role.isSeparator]
    have hregular : Regular (part :: parts) ↔ part.role ≠ .entrySeparator true ∧ Regular parts :=
      List.forall_mem_cons
    rw [List.map_cons, tokensFrom, clean_cons, ih, hregular]
    exact and_congr_left' hrole

/-- The line `key = value` is read to its end, each part as one token. It is read without errors
exactly if no inline table in the value holds an array or a table before its last entry. -/
theorem line_clean_iff_nestsLast (key : BareKey) (value : Value) (baseIndent tabSize : Nat) :
    ∃ tokens last,
      tokenizeLine mode (line key value) (mode.start baseIndent) tabSize = .ok (tokens, last) ∧
      tokens = tokensFrom 0 ((partsOfEntry (key, value)).map Part.piece) ∧
      (Clean (partsOfEntry (key, value)) tokens ↔ value.NestsLast) := by
  obtain ⟨after, _, hline⟩ := tokenizeLine_line at_start key value tabSize
  refine ⟨_, .record after, hline, rfl, ?_⟩
  rw [clean_tokensFrom, regular_partsOfEntry, regular_parts]

/-- A table in which an array comes before the last entry. -/
def arrayFirst : Value :=
  let one : Integer := ⟨none, '1', [], .inl rfl, rfl, List.forall_mem_nil _⟩
  .table [(.single 'a' rfl, .array [.integer one]), (.single 'b' rfl, .integer one)]

/-- The comma after an array in an inline table is an error. -/
theorem comma_after_array_is_error :
    ∃ key tokens last, line key arrayFirst = "k = \x7ba = [1], b = 1\x7d".toList ∧
      tokenizeLine mode (line key arrayFirst) (mode.start 0) 4 = .ok (tokens, last) ∧
      ⟨12, 13, some .error⟩ ∈ tokens := by
  obtain ⟨after, _, hline⟩ := tokenizeLine_line at_start (.single 'k' rfl) arrayFirst 4
  exact ⟨.single 'k' rfl, _, .record after, by decide, hline, by decide⟩

end LineLexer.TomlGrammar
