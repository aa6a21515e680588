import LineLexer.Proofs.Grammar.TomlRecord
import LineLexer.Proofs.Highlight.Visited

/-!
# Keys and open brackets

A key is expected outside of all brackets and inside the braces of an inline table, never inside the
square brackets of an array. Commas, equals signs and closing brackets change what is expected, and
closing brackets pop whatever is open, matching or not; still every call leaves a record in which a
key is expected only where one may stand. At the start of a line outside of brackets one always is.
-/

namespace LineLexer.TomlGrammar

open Scan

/-! ## Fields -/

/-- The open brackets, outermost first. -/
def IsNesting (field : Field) : Prop :=
  ∃ brackets : List Char, field = .list (brackets.map fun c ↦ .str (String.singleton c)) ∧
    ∀ c ∈ brackets, c = '[' ∨ c = '\x7b'

theorem IsNesting.dropLast {items : List Field} (h : IsNesting (.list items)) :
    IsNesting (.list items.dropLast) := by
  obtain ⟨brackets, hitems, hbrackets⟩ := h
  cases hitems
  refine ⟨brackets.dropLast, by rw [List.map_dropLast], fun c hc ↦ ?_⟩
  exact hbrackets c (List.dropLast_subset _ hc)

theorem IsNesting.concat {items : List Field} (h : IsNesting (.list items)) {c : Char}
    (hc : c = '[' ∨ c = '\x7b') : IsNesting (.list (items ++ [.str (String.singleton c)])) := by
  obtain ⟨brackets, hitems, hbrackets⟩ := h
  cases hitems
  exact ⟨brackets ++ [c], by simp, List.forall_mem_append.2 ⟨hbrackets, by simpa using hc⟩⟩

/-- The fields are of their kinds. Between the edits of one call no more than this may hold: where a
bracket has just been closed, the flag is still that of the bracket. -/
structure FieldsFit (record : Record) : Prop where
  lhs : ∃ flag, record.find? "lhs" = some (.bool flag)
  nesting : ∀ field ∈ record.find? "nesting", IsNesting field
  string : ∀ field ∈ record.find? "string", field = .str "\"\"\"" ∨ field = .str "'''"

/-- A key may stand outside of all brackets and inside of braces. -/
def MayHaveKey (record : Record) : Prop :=
  record.list "nesting" = [] ∨ innermost? record = some "\x7b"

/-- The fields are of their kinds, and a key is expected only where one may stand. -/
structure Shaped (record : Record) : Prop extends FieldsFit record where
  key : record.bool "lhs" = true → MayHaveKey record

variable {record : Record}

/-! ## Edits -/

/-- Whether there may be a key does not depend on the flag. -/
theorem mayHaveKey_insert_lhs {flag : Bool} :
    MayHaveKey (record.insert "lhs" (.bool flag)) ↔ MayHaveKey record := by
  simp [MayHaveKey, innermost?, Record.list, Table.find?_insert]

namespace FieldsFit

/-- The record keeps its shape if a key is expected only where there may be one. -/
theorem insert_lhs (h : FieldsFit record) {flag : Bool}
    (hflag : flag = true → MayHaveKey record) : Shaped (record.insert "lhs" (.bool flag)) where
  lhs := ⟨flag, by simp [Table.find?_insert]⟩
  nesting := by simpa [Table.find?_insert] using h.nesting
  string := by simpa [Table.find?_insert] using h.string
  key := by
    intro hlhs
    rw [Record.bool, Table.find?_insert, if_pos rfl] at hlhs
    exact mayHaveKey_insert_lhs.2 (hflag hlhs)

theorem isNesting_list (h : FieldsFit record) : IsNesting (.list (record.list "nesting")) := by
  rw [Record.list]
  cases hnesting : record.find? "nesting" with
  | none => exact ⟨[], rfl, List.forall_mem_nil _⟩
  | some field =>
    obtain ⟨brackets, rfl, hbrackets⟩ := h.nesting field hnesting
    exact ⟨brackets, rfl, hbrackets⟩

theorem insert_nesting (h : FieldsFit record) {brackets : List Field}
    (hbrackets : IsNesting (.list brackets)) :
    FieldsFit (record.insert "nesting" (.list brackets)) where
  lhs := by simpa [Table.find?_insert] using h.lhs
  nesting := by simpa [Table.find?_insert] using hbrackets
  string := by simpa [Table.find?_insert] using h.string

theorem push (h : FieldsFit record) {c : Char} (hc : c = '[' ∨ c = '\x7b') :
    FieldsFit (record.push "nesting" (.str (String.singleton c))) :=
  h.insert_nesting (h.isNesting_list.concat hc)

/-- Whichever bracket is open is closed, and what is expected is told by the one around it. -/
theorem closeNesting (h : FieldsFit record) : Shaped (closeNesting record) :=
  (h.insert_nesting h.isNesting_list.dropLast).insert_lhs fun hflag ↦ .inr (by simpa using hflag)

end FieldsFit

namespace Shaped

/-- A square bracket is opened where a value is expected, and one still is inside it. -/
theorem openArray (h : Shaped record) (hlhs : record.bool "lhs" = false) :
    Shaped (record.push "nesting" (.str "[")) where
  toFieldsFit := h.push (.inl rfl)
  key := by
    have hkept : Record.bool (record.push "nesting" (.str "[")) "lhs" = record.bool "lhs" := by
      simp [Record.push, Record.bool, Table.find?_insert]
    intro hpushed
    rw [hkept, hlhs] at hpushed
    cases hpushed

/-- Behind the brace of a table there may be a key. -/
theorem openTable (h : Shaped record) :
    Shaped (Table.insert (record.push "nesting" (.str "\x7b")) "lhs" (.bool true)) := by
  refine (h.push (.inr rfl)).insert_lhs fun _ ↦ .inr ?_
  simp [innermost?, Record.push, Record.list, Table.find?_insert, Field.str?]

theorem insert_string (h : Shaped record) {delimiter : String}
    (hdelimiter : delimiter = "\"\"\"" ∨ delimiter = "'''") :
    Shaped (record.insert "string" (.str delimiter)) where
  lhs := by simpa [Table.find?_insert] using h.lhs
  nesting := by simpa [Table.find?_insert] using h.nesting
  string := by simpa [Table.find?_insert] using hdelimiter
  key := by
    simpa [MayHaveKey, innermost?, Record.bool, Record.list, Table.find?_insert] using h.key

theorem erase_string (h : Shaped record) : Shaped (record.erase "string") where
  lhs := by simpa [Table.find?_erase] using h.lhs
  nesting := by simpa [Table.find?_erase] using h.nesting
  string := by simp [Table.find?_erase]
  key := by
    simpa [MayHaveKey, innermost?, Record.bool, Record.list, Table.find?_erase] using h.key

end Shaped

/-! ## Positions -/

/-- Reads a token outside strings, blanks and comments where a key is expected, or a value. -/
def readContentAt (key : Bool) (record : Record) : Scan (Option TokenClass × Record) := do
  if key && (record.list "nesting").isEmpty && (← peek) == some '[' then
    if ← eatPattern header then
      return (some .header, record)
    skipToEnd
    return (some .error, record)
  if ← matchText ['"', '"', '"'] true then
    return ← openMultiline record ['"', '"', '"']
  if ← matchText ['\'', '\'', '\''] true then
    return ← openMultiline record ['\'', '\'', '\'']
  match ← eat fun c ↦ c == '"' || c == '\'' with
  | some delimiter =>
    advance (quotedBody delimiter false (← rest))
    return (some (if key then .attributeName else .string), record)
  | none => if key then readKey record else readValue record

/-- Reads a token outside strings where a key is expected, or a value. -/
def readAt (key : Bool) (record : Record) : Scan (Option TokenClass × Record) := do
  if ← eatSpace then
    return (none, record)
  if ← eatChar '#' then
    skipToEnd
    return (some .comment, record)
  readContentAt key record

/-- The flag tells the position. -/
theorem readOutside_eq (record : Record) :
    readOutside record = readAt (record.bool "lhs") record := rfl

/-- The classes of tokens where a key is expected are not those of scalars, and where a value is
expected not those of keys, headers and equals signs. -/
def Allowed : Bool → Option TokenClass → Prop
  | true, cls => cls ≠ some .number ∧ cls ≠ some .atom
  | false, cls => cls ≠ some .attributeName ∧ cls ≠ some .header ∧ cls ≠ some .operator

instance : ∀ key cls, Decidable (Allowed key cls)
  | true, _ => inferInstanceAs (Decidable (_ ∧ _))
  | false, _ => inferInstanceAs (Decidable (_ ∧ _))

/-! ## Calls -/

def Answers (key : Bool) (answer : Option TokenClass × Record) : Prop :=
  Allowed key answer.1 ∧ Shaped answer.2

theorem Shaped.answers (h : Shaped record) {key : Bool} {cls : Option TokenClass}
    (hcls : Allowed key cls) : Answers key (cls, record) := ⟨hcls, h⟩

theorem ensures_readMultiline (h : Shaped record) (delimiter : List Char) (key : Bool) :
    Ensures (readMultiline record delimiter) (Answers key) := by
  have hstring : Allowed key (some .string) := by cases key <;> decide
  apply Ensures.branch
  · exact .andThen _ fun _ ↦ .pure (h.erase_string.answers hstring)
  · exact .andThen _ fun _ ↦ .pure (h.answers hstring)

/-- Where a key is expected only classes of keys are answered. -/
theorem ensures_readKey (h : Shaped record) : Ensures (readKey record) (Answers true) := by
  have hequals : Shaped (record.insert "lhs" (.bool false)) := h.insert_lhs nofun
  apply Ensures.branch _ (.pure (hequals.answers (by decide)))
  apply Ensures.branch _ (.pure (h.answers (by decide)))
  apply Ensures.branch _ (.pure (h.closeNesting.answers (by decide)))
  apply Ensures.branch _ (.pure (h.answers (by decide)))
  exact .andThen _ fun _ ↦ .pure (h.answers (by decide))

theorem ensures_readScalar : Ensures readScalar fun cls ↦ Allowed false (some cls) := by
  apply Ensures.branch _ (.pure (by decide))
  apply Ensures.branch _ (.pure (by decide))
  apply Ensures.branch _ (.pure (by decide))
  apply Ensures.branch _ (.pure (by decide))
  refine .andThen _ fun found ↦ .ite (fun _ ↦ ?_) fun _ ↦ .pure (by decide)
  exact .andThen _ fun _ ↦ .pure (by decide)

theorem ensures_readValue (h : Shaped record) (hlhs : record.bool "lhs" = false) :
    Ensures (readValue record) (Answers false) := by
  have hopen {c : Char} (hc : c = '[' ∨ c = '\x7b') :
      Shaped (if c = '\x7b' then
        Table.insert (record.push "nesting" (.str (String.singleton c))) "lhs" (.bool true)
      else record.push "nesting" (.str (String.singleton c))) := by
    rcases hc with rfl | rfl
    · exact h.openArray hlhs
    · exact h.openTable
  have hcomma : Shaped
      (if innermost? record == some "\x7b" then record.insert "lhs" (.bool true) else record) := by
    split
    · rename_i hbrace
      exact h.insert_lhs fun _ ↦ .inr (by simpa using hbrace)
    · exact h
  refine .andThen _ fun found ↦ ?_
  cases found with
  | none => exact .pure (h.answers (by decide))
  | some c =>
    refine .ite (fun hc ↦ .andThen _ fun _ ↦ .pure ((hopen hc).answers (by decide))) fun _ ↦ ?_
    refine .ite (fun _ ↦ .andThen _ fun _ ↦ .pure (h.closeNesting.answers (by decide))) fun _ ↦ ?_
    refine .ite (fun _ ↦ .andThen _ fun _ ↦ .pure (hcomma.answers (by decide))) fun _ ↦ ?_
    exact ensures_readScalar.bind fun _ hcls ↦ .pure (h.answers hcls)

/-- Content is answered in the classes of what is expected. -/
theorem ensures_readContentAt (h : Shaped record) {key : Bool}
    (hkey : record.bool "lhs" = key) :
    Ensures (readContentAt key record) (Answers key) := by
  have hopen {delimiter : List Char} (hdelimiter : String.ofList delimiter = "\"\"\"" ∨
      String.ofList delimiter = "'''") :
      Ensures (openMultiline record delimiter) (Answers key) :=
    ensures_readMultiline (h.insert_string hdelimiter) delimiter key
  refine .andThen _ fun found ↦ .ite (fun hheader ↦ ?_) fun _ ↦ ?_
  · -- A bracket is tried as a header only where a key is expected.
    have htrue : key = true := by
      simp only [Bool.and_eq_true] at hheader
      exact hheader.1.1
    subst htrue
    apply Ensures.branch _ (.pure (h.answers (by decide)))
    exact .andThen _ fun _ ↦ .pure (h.answers (by decide))
  · apply Ensures.branch _ (hopen (.inl rfl))
    apply Ensures.branch _ (hopen (.inr rfl))
    refine .andThen _ fun quote ↦ ?_
    cases quote with
    | some delimiter =>
      exact .andThen _ fun _ ↦ .andThen _ fun _ ↦ .pure (h.answers (by cases key <;> decide))
    | none =>
      cases key with
      | true => exact ensures_readKey h
      | false => exact ensures_readValue h hkey

/-- A call outside of strings is answered in the classes of what is expected. -/
theorem ensures_readAt (h : Shaped record) {key : Bool}
    (hkey : record.bool "lhs" = key) :
    Ensures (readAt key record) (Answers key) := by
  apply Ensures.branch _ (.pure (h.answers (by cases key <;> decide)))
  apply Ensures.branch _ (.andThen _ fun _ ↦ .pure (h.answers (by cases key <;> decide)))
  exact ensures_readContentAt h hkey

/-! ## The mode -/

/-- At the start of a line outside brackets there may always be a key. -/
theorem Shaped.refresh (h : Shaped record) (atStart : Bool) :
    Shaped (if atStart && (record.list "nesting").isEmpty then record.insert "lhs" (.bool true)
      else record) := by
  split
  · rename_i hfresh
    have hnesting : record.list "nesting" = [] := by
      rw [Bool.and_eq_true, List.isEmpty_iff] at hfresh
      exact hfresh.2
    exact h.insert_lhs fun _ ↦ .inl hnesting
  · exact h

/-- One call leads from shape to shape. -/
theorem ensures_readToken (h : Shaped record) :
    Ensures (readToken record) fun answer ↦ Shaped answer.2 := by
  cases hstring : record.str? "string" with
  | some delimiter =>
    unfold readToken
    rw [hstring]
    exact (ensures_readMultiline h delimiter.toList true).mono fun _ hanswer ↦ hanswer.2
  | none =>
    refine ⟨fun {cursor answer reached} hrun ↦ ?_⟩
    rw [readToken_eq_readOutside hstring, readOutside_eq] at hrun
    exact ((ensures_readAt (h.refresh cursor.atStart) rfl).of_run hrun).2

def ShapedState (state : State) : Prop := ∃ record, state = .record record ∧ Shaped record

/-- Every state on the way is of this shape. -/
theorem keeps_mode : mode.Keeps ShapedState where
  copy := by
    rintro _ ⟨record, rfl, h⟩
    exact ⟨record, rfl, h⟩
  skipBlankLine _ h := h
  readToken := by
    rintro _ ⟨record, rfl, h⟩
    exact (ensures_readToken h).bind fun answer hanswer ↦ .pure ⟨answer.2, rfl, hanswer⟩

theorem shaped_start (baseIndent : Nat) : ShapedState (mode.start baseIndent) :=
  ⟨_, rfl, ⟨⟨true, rfl⟩, nofun, nofun⟩, fun _ ↦ .inl rfl⟩

/-- A call reads at a position: it reads the record as one is read there, and gives a token of a
class that is allowed there. -/
structure ReadsAt (key : Bool) (record read : Record) (cursor : Cursor) : Prop where
  readToken_eq : readToken record cursor = readAt key read cursor
  allowed : ∀ {cls : Option TokenClass} {after : Record} {reached : Cursor},
    readToken record cursor = .ok ((cls, after), reached) → Allowed key cls

/-- A call at a record of this shape reads what the record expects. -/
theorem Shaped.readsAt (h : Shaped record) {key : Bool} (hkey : record.bool "lhs" = key)
    {other : Record} {cursor : Cursor}
    (hread : readToken other cursor = readOutside record cursor) :
    ReadsAt key other record cursor where
  readToken_eq := by rw [hread, readOutside_eq, hkey]
  allowed := by
    intro cls after reached hrun
    rw [hread, readOutside_eq, hkey] at hrun
    exact ((ensures_readAt h hkey).of_run hrun).1

/-- At the start of a line outside of all brackets a key is expected. -/
theorem Shaped.readsAt_key (h : Shaped record) (houtside : Outside record) {cursor : Cursor}
    (hstart : cursor.atStart = true) :
    ReadsAt true record (record.insert "lhs" (.bool true)) cursor := by
  have hlhs : Record.bool (record.insert "lhs" (.bool true)) "lhs" = true := by
    rw [Record.bool, Table.find?_insert, if_pos rfl]
  have hshaped : Shaped (record.insert "lhs" (.bool true)) :=
    h.insert_lhs fun _ ↦ .inl houtside.nesting
  exact hshaped.readsAt hlhs (houtside.readToken_eq hstart)

/-- Inside a square bracket a value is expected, at the start of a line too. -/
theorem Shaped.readsAt_value (h : Shaped record) (hstring : record.find? "string" = none)
    (harray : innermost? record = some "[") (cursor : Cursor) :
    ReadsAt false record record cursor := by
  have hnesting : record.list "nesting" ≠ [] := by
    intro hnil
    rw [innermost?, hnil] at harray
    cases harray
  have hlhs : record.bool "lhs" = false := by
    refine Bool.eq_false_iff.2 fun htrue ↦ ?_
    rcases h.key htrue with hnil | hbrace
    · exact hnesting hnil
    · rw [harray] at hbrace
      exact absurd hbrace (by decide)
  have hread : readToken record cursor = readOutside record cursor := by
    rw [readToken_eq_readOutside (by rw [Record.str?, hstring]), if_neg]
    simp [hnesting]
  exact h.readsAt hlhs hread

/-- Whatever is read, matching brackets or not, the record keeps its shape: a key is expected only
outside of all brackets and inside of braces. At the start of a line outside of all brackets a token
is read where a key is expected, and in an array always where a value is. -/
theorem keys_follow_brackets {baseIndent : Nat} {state : State}
    (hstate : Visited mode baseIndent state) :
    ∃ record : Record, state = .record record ∧ Shaped record ∧
      (record.find? "string" = none → ∀ cursor : Cursor,
        (record.list "nesting" = [] → cursor.atStart = true →
          ReadsAt true record (record.insert "lhs" (.bool true)) cursor) ∧
        (innermost? record = some "[" → ReadsAt false record record cursor)) := by
  obtain ⟨record, rfl, hshaped⟩ := keeps_mode.of_visited (shaped_start baseIndent) hstate
  refine ⟨record, rfl, hshaped, fun hstring cursor ↦ ⟨fun hnesting hstart ↦ ?_, fun harray ↦ ?_⟩⟩
  · exact hshaped.readsAt_key ⟨hstring, hnesting⟩ hstart
  · exact hshaped.readsAt_value hstring harray cursor

/-- The record after a brace in an array that a square bracket closes. -/
def afterMismatch : Record := .ofList [("lhs", .bool false), ("nesting", .list [.str "["])]

/-- A document of one line leads to this state. -/
theorem visited_afterMismatch : Visited mode 0 (.record afterMismatch) := by
  have hrun : ∃ calls, LineRun mode.readToken (.ofLine "a=[\x7b=]".toList 4) 0 (mode.start 0) calls
      none (.record afterMismatch) :=
    ⟨_, .advance (by decide) rfl (by decide) (.advance (by decide) rfl (by decide)
      (.advance (by decide) rfl (by decide) (.advance (by decide) rfl (by decide)
      (.advance (by decide) rfl (by decide) (.advance (by decide) rfl (by decide)
      (.done (by decide)))))))⟩
  obtain ⟨calls, hrun⟩ := hrun
  exact .line .start (hrun.tokenizeLine_eq (by decide))

/-- A value is expected in what is left of the array, at the start of the next line. -/
theorem keys_follow_brackets_mismatch :
    Visited mode 0 (.record afterMismatch) ∧ afterMismatch.find? "string" = none ∧
      innermost? afterMismatch = some "[" ∧
      ReadsAt false afterMismatch afterMismatch (.ofLine "b".toList 4) := by
  obtain ⟨_, ⟨⟩, _, hreads⟩ := keys_follow_brackets visited_afterMismatch
  exact ⟨visited_afterMismatch, rfl, rfl, (hreads rfl _).2 rfl⟩

end LineLexer.TomlGrammar
