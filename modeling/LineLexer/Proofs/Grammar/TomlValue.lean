import LineLexer.Proofs.Grammar.TomlCalls
import LineLexer.Proofs.Highlight.Steady

/-!
# Values of TOML as they are written

Integers, Boolean values, strings, arrays and inline tables, nested to any depth, are written in
parts. The mode reads each part as one token: this holds of every part by itself, at the position
where it stands, and then of a value by induction over its items and entries. The line of an entry
leads from outside all strings and brackets back to there.
-/

namespace LineLexer.TomlGrammar

open Scan

/-! ## Values -/

/-- A value on one line. -/
inductive Value where
  | integer (digits : Integer)
  | boolean (value : Bool)
  | string (quoted : BasicString)
  | array (items : List Value)
  | table (entries : List (BareKey × Value))

/-- What a part of a line is for. A comma after an entry knows whether the value of the entry is an
array or an inline table. -/
inductive Role where
  | key
  | equals
  | blank
  | bracket
  | integer
  | boolean
  | string
  | itemSeparator
  | entrySeparator (afterNested : Bool)
deriving DecidableEq

structure Part where
  text : List Char
  role : Role

def Part.blank : Part := ⟨[' '], .blank⟩

namespace Value

def isNested : Value → Bool
  | .array _ | .table _ => true
  | _ => false

mutual

/-- The parts in which a value is written. -/
def parts : Value → List Part
  | .integer digits => [⟨digits.text, .integer⟩]
  | .boolean value => [⟨booleanText value, .boolean⟩]
  | .string quoted => [⟨quoted.text, .string⟩]
  | .array items => ⟨['['], .bracket⟩ :: partsOfItems items
  | .table entries => ⟨['\x7b'], .bracket⟩ :: partsOfEntries entries
termination_by structural value => value

/-- An array after its opening bracket. -/
def partsOfItems : List Value → List Part
  | [] => [⟨[']'], .bracket⟩]
  | item :: items => item.parts ++ furtherItems items
termination_by structural items => items

/-- An array after one of its items. -/
def furtherItems : List Value → List Part
  | [] => [⟨[']'], .bracket⟩]
  | item :: items => ⟨[','], .itemSeparator⟩ :: .blank :: (item.parts ++ furtherItems items)
termination_by structural items => items

def partsOfEntry : BareKey × Value → List Part
  | (key, value) => ⟨key.text, .key⟩ :: .blank :: ⟨['='], .equals⟩ :: .blank :: value.parts
termination_by structural entry => entry

/-- An inline table after its opening bracket. -/
def partsOfEntries : List (BareKey × Value) → List Part
  | [] => [⟨['\x7d'], .bracket⟩]
  | entry :: entries => partsOfEntry entry ++ furtherEntries entry.2.isNested entries
termination_by structural entries => entries

/-- An inline table after one of its entries. -/
def furtherEntries (afterNested : Bool) : List (BareKey × Value) → List Part
  | [] => [⟨['\x7d'], .bracket⟩]
  | entry :: entries =>
    ⟨[','], .entrySeparator afterNested⟩ :: .blank ::
      (partsOfEntry entry ++ furtherEntries entry.2.isNested entries)
termination_by structural entries => entries

end

/-- To prove a property of all values, prove it of arrays and tables of values that have it. -/
@[induction_eliminator]
theorem ind {motive : Value → Prop} (integer : ∀ digits, motive (.integer digits))
    (boolean : ∀ value, motive (.boolean value)) (string : ∀ quoted, motive (.string quoted))
    (array : ∀ items, (∀ item ∈ items, motive item) → motive (.array items))
    (table : ∀ entries, (∀ entry ∈ entries, motive entry.2) → motive (.table entries))
    (value : Value) : motive value := by
  match value with
  | .integer digits => exact integer digits
  | .boolean value => exact boolean value
  | .string quoted => exact string quoted
  | .array items =>
    exact array items fun item _ ↦ ind integer boolean string array table item
  | .table entries =>
    exact table entries fun entry _ ↦ ind integer boolean string array table entry.2
termination_by sizeOf value
decreasing_by
  · rename_i hmem
    have hitem := List.sizeOf_lt_of_mem hmem
    rw [Value.array.sizeOf_spec]
    omega
  · rename_i hmem
    have hentry := List.sizeOf_lt_of_mem hmem
    obtain ⟨key, value⟩ := entry
    rw [Prod.mk.sizeOf_spec] at hentry
    rw [Value.table.sizeOf_spec]
    change sizeOf value < _
    omega

end Value

/-! ## Parts -/

def Role.cls : Role → Option TokenClass
  | .key => some .attributeName
  | .equals => some .operator
  | .blank => none
  | .bracket => some .bracket
  | .integer => some .number
  | .boolean => some .atom
  | .string => some .string
  | .itemSeparator => some .punctuation
  | .entrySeparator afterNested => some (if afterNested then .error else .punctuation)

def Part.piece (part : Part) : Piece := ⟨part.text, part.role.cls⟩

def written (parts : List Part) : List Char := parts.flatMap Part.text

theorem written_append (parts parts' : List Part) :
    written (parts ++ parts') = written parts ++ written parts' :=
  List.flatMap_append

/-- From every record at a position the mode reads the parts one by one and comes to a record at
another position, if this text lies ahead. -/
def Passes (position : Position) (parts : List Part) (ahead : List Char) (reached : Position) :
    Prop :=
  ∀ passed record, passed ≠ [] → At record position → ∃ after, At after reached ∧
    ReadsPart mode.readToken passed (.record record) (written parts) ahead (parts.map Part.piece)
      (.record after)

/-- From every record at a position one call of `read` takes the part and comes to a record at
another position, if this text lies ahead. -/
def OneCall (read : Record → Scan (Option TokenClass × Record)) (position : Position) (part : Part)
    (ahead : List Char) (reached : Position) : Prop :=
  ∀ passed record, passed ≠ [] → At record position → ∃ after, At after reached ∧
    ∀ base hidden, read record (Cursor.placed base hidden passed [] (part.text ++ ahead)) =
      .ok ((part.role.cls, after), Cursor.placed base hidden passed part.text ahead)

namespace Passes

variable {position middle reached : Position} {part : Part} {parts parts' : List Part}
  {ahead : List Char} {lhs : Bool} {nesting : List Char}

/-- Parts that are passed one after the other are passed together. -/
theorem append (h : Passes position parts (written parts' ++ ahead) middle)
    (h' : Passes middle parts' ahead reached) :
    Passes position (parts ++ parts') ahead reached := by
  intro passed record hpassed hrecord
  obtain ⟨between, hbetween, hparts⟩ := h passed record hpassed hrecord
  obtain ⟨after, hafter, hparts'⟩ :=
    h' (passed ++ written parts) between (by simp [hpassed]) hbetween
  refine ⟨after, hafter, ?_⟩
  rw [written_append, List.map_append]
  exact hparts.append hparts'

theorem cons (h : Passes position [part] (written parts ++ ahead) middle)
    (h' : Passes middle parts ahead reached) : Passes position (part :: parts) ahead reached :=
  h.append h'

theorem call (htext : part.text ≠ []) (h : OneCall readToken position part ahead reached) :
    Passes position [part] ahead reached := by
  intro passed record hpassed hrecord
  obtain ⟨after, hafter, hcall⟩ := h passed record hpassed hrecord
  refine ⟨after, hafter, ?_⟩
  have hwritten : written [part] = part.text := List.append_nil part.text
  rw [hwritten]
  exact .call htext fun base hidden ↦ readToken_mode (hcall base hidden)

/-- Blanks between parts change nothing. -/
theorem blank (hahead : ∀ c ∈ ahead.head?, isSpace c = false) :
    Passes position [.blank] ahead position :=
  call (by simp [Part.blank]) fun _ record hpassed hrecord ↦ ⟨record, hrecord, fun base hidden ↦
    readToken_blank base hidden hrecord.string hpassed hahead⟩

/-- A part that begins with no quote is read as the position says. -/
theorem unquoted {c : Char} {text : List Char} (htext : part.text = c :: text)
    (hspace : isSpace c = false) (hc : c ∉ ['#', '"', '\''])
    (hheader : c ≠ '[' ∨ position.lhs = false)
    (h : OneCall (if position.lhs then readKey else readValue) position part ahead reached) :
    Passes position [part] ahead reached := by
  refine call (by simp [htext]) fun passed record hpassed hrecord ↦ ?_
  obtain ⟨after, hafter, hcall⟩ := h passed record hpassed hrecord
  refine ⟨after, hafter, fun base hidden ↦ ?_⟩
  rw [← hcall base hidden, htext]
  exact hrecord.readToken_eq base hidden hpassed hspace hc hheader

/-- What begins like a word is read as a key or as a value, whichever is expected. -/
theorem word {c : Char} {text : List Char} (htext : part.text = c :: text)
    (hc : startsWord c = true)
    (h : OneCall (if position.lhs then readKey else readValue) position part ahead reached) :
    Passes position [part] ahead reached := by
  have hheader : c ∉ ['['] := not_mem_of_startsWord hc rfl
  exact unquoted htext (isSpace_of_startsWord hc) (not_mem_of_startsWord hc rfl)
    (.inl (by simpa using hheader)) h

/-! ### Keys -/

theorem key (key : BareKey) (hahead : ∀ c ∈ ahead.head?, isKeyChar c = false) :
    Passes ⟨true, nesting⟩ [⟨key.text, .key⟩] ahead ⟨true, nesting⟩ := by
  obtain ⟨c, text, htext, hc⟩ := key.exists_cons
  exact word htext hc fun _ record _ hrecord ↦
    ⟨record, hrecord, fun base hidden ↦ readKey_bareKey base hidden key hahead⟩

theorem equals : Passes ⟨true, nesting⟩ [⟨['='], .equals⟩] ahead ⟨false, nesting⟩ :=
  unquoted rfl (by decide) (by decide) (.inl (by decide)) fun _ _ _ hrecord ↦
    ⟨_, hrecord.insert_lhs false, fun base hidden ↦ readKey_equals base hidden⟩

/-! ### Brackets -/

/-- An opening bracket is innermost, and a value is expected. -/
theorem openArray :
    Passes ⟨false, nesting⟩ [⟨['['], .bracket⟩] ahead ⟨false, nesting ++ ['[']⟩ :=
  unquoted rfl (by decide) (by decide) (.inr rfl) fun _ _ _ hrecord ↦
    ⟨_, hrecord.push '[', fun base hidden ↦ readValue_open base hidden (.inl rfl)⟩

/-- An opening brace is innermost, and a key is expected. -/
theorem openTable :
    Passes ⟨false, nesting⟩ [⟨['\x7b'], .bracket⟩] ahead ⟨true, nesting ++ ['\x7b']⟩ :=
  unquoted rfl (by decide) (by decide) (.inl (by decide)) fun _ _ _ hrecord ↦
    ⟨_, (hrecord.push '\x7b').insert_lhs true, fun base hidden ↦
      readValue_open base hidden (.inr rfl)⟩

/-- Behind a closing bracket a key is expected if a table is around it. -/
theorem closeArray :
    Passes ⟨false, nesting ++ ['[']⟩ [⟨[']'], .bracket⟩] ahead ⟨inTable nesting, nesting⟩ :=
  unquoted rfl (by decide) (by decide) (.inl (by decide)) fun _ _ _ hrecord ↦
    ⟨_, hrecord.closeNesting, fun base hidden ↦ readValue_close base hidden (.inl rfl)⟩

/-- The brace closes a table whether a key is expected or not. -/
theorem closeTable :
    Passes ⟨lhs, nesting ++ ['\x7b']⟩ [⟨['\x7d'], .bracket⟩] ahead ⟨inTable nesting, nesting⟩ := by
  refine unquoted rfl (by decide) (by decide) (.inl (by decide)) fun _ _ _ hrecord ↦
    ⟨_, hrecord.closeNesting, fun base hidden ↦ ?_⟩
  cases lhs with
  | true => exact readKey_brace base hidden
  | false => exact readValue_close base hidden (.inr rfl)

/-! ### Commas -/

theorem itemSeparator :
    Passes ⟨false, nesting ++ ['[']⟩ [⟨[','], .itemSeparator⟩] ahead ⟨false, nesting ++ ['[']⟩ := by
  refine unquoted rfl (by decide) (by decide) (.inl (by decide)) fun passed record _ hrecord ↦
    ⟨record, hrecord, fun base hidden ↦ ?_⟩
  have hcomma : readValue record (base.placed hidden passed [] (',' :: ahead)) = _ :=
    hrecord.readValue_comma base hidden
  rwa [inTable_append_bracket] at hcomma

/-- After an array or a table inside an inline table a key is expected, and the comma is none. -/
theorem entrySeparator (afterNested : Bool) :
    Passes ⟨afterNested, nesting ++ ['\x7b']⟩ [⟨[','], .entrySeparator afterNested⟩] ahead
      ⟨true, nesting ++ ['\x7b']⟩ := by
  cases afterNested with
  | true =>
    exact unquoted rfl (by decide) (by decide) (.inl (by decide)) fun _ record _ hrecord ↦
      ⟨record, hrecord, fun base hidden ↦ readKey_comma base hidden⟩
  | false =>
    refine unquoted rfl (by decide) (by decide) (.inl (by decide)) fun passed record _ hrecord ↦
      ⟨_, hrecord.insert_lhs true, fun base hidden ↦ ?_⟩
    have hcomma : readValue record (base.placed hidden passed [] (',' :: ahead)) = _ :=
      hrecord.readValue_comma base hidden
    rwa [inTable_append_brace] at hcomma

/-! ### Scalars -/

theorem scalar {c : Char} {text : List Char} {cls : TokenClass} (htext : part.text = c :: text)
    (hc : startsWord c = true) (hcls : part.role.cls = some cls)
    (hscalar : ∀ base hidden passed,
      readScalar (Cursor.placed base hidden passed [] (part.text ++ ahead)) =
        .ok (cls, Cursor.placed base hidden passed part.text ahead)) :
    Passes ⟨false, nesting⟩ [part] ahead ⟨false, nesting⟩ := by
  refine word htext hc fun passed record _ hrecord ↦ ⟨record, hrecord, fun base hidden ↦ ?_⟩
  have hread := hscalar base hidden passed
  rw [htext, List.cons_append] at hread ⊢
  rw [if_neg Bool.false_ne_true,
    readValue_scalar base hidden (not_mem_of_startsWord hc rfl), hread, hcls,
    Outcome.ok_bind]

theorem integer (digits : Integer) (hahead : EndsValue ahead) :
    Passes ⟨false, nesting⟩ [⟨digits.text, .integer⟩] ahead ⟨false, nesting⟩ := by
  obtain ⟨c, text, htext, hc⟩ := digits.exists_cons
  exact scalar htext hc rfl fun base hidden _ ↦ readScalar_integer base hidden digits hahead

theorem boolean (value : Bool) (hahead : EndsValue ahead) :
    Passes ⟨false, nesting⟩ [⟨booleanText value, .boolean⟩] ahead ⟨false, nesting⟩ := by
  cases value with
  | true =>
    exact scalar rfl rfl rfl fun base hidden _ ↦ readScalar_boolean base hidden true hahead
  | false =>
    exact scalar rfl rfl rfl fun base hidden _ ↦ readScalar_boolean base hidden false hahead

theorem string (quoted : BasicString) (hahead : EndsValue ahead) :
    Passes ⟨false, nesting⟩ [⟨quoted.text, .string⟩] ahead ⟨false, nesting⟩ :=
  call (by simp [BasicString.text]) fun _ record hpassed hrecord ↦
    ⟨record, hrecord, fun base hidden ↦
      hrecord.readToken_string base hidden hpassed quoted hahead⟩

end Passes

/-! ## Reading a value -/

theorem endsValue_cons {c : Char} (h : c = ',' ∨ c = ']' ∨ c = '\x7d') (text : List Char) :
    EndsValue (c :: text) := by
  intro other hother
  obtain rfl : c = other := Option.some.inj hother
  exact h

namespace Value

variable {nesting ahead : List Char}

/-- The value is read part by part wherever a value is expected. Only after an array or a table in
an inline table is a key expected next. -/
def Reads (value : Value) : Prop :=
  ∀ nesting ahead : List Char, EndsValue ahead →
    Passes ⟨false, nesting⟩ value.parts ahead ⟨value.isNested && inTable nesting, nesting⟩

/-- A value does not begin with a blank. -/
theorem isSpace_head_written (value : Value) (ahead : List Char) :
    ∀ c ∈ (written value.parts ++ ahead).head?, isSpace c = false := by
  intro c hc
  cases value with
  | integer digits =>
    obtain ⟨first, text, htext, hfirst⟩ := digits.exists_cons
    simp only [written, parts, List.flatMap_cons, htext] at hc
    exact Option.some.inj hc ▸ isSpace_of_startsWord hfirst
  | boolean value => cases value <;> exact Option.some.inj hc ▸ by decide
  | string quoted => exact Option.some.inj hc ▸ by decide
  | array items => exact Option.some.inj hc ▸ by decide
  | table entries => exact Option.some.inj hc ▸ by decide

/-! ### Arrays -/

theorem Reads.item {item : Value} (h : item.Reads) (hahead : EndsValue ahead) :
    Passes ⟨false, nesting ++ ['[']⟩ item.parts ahead ⟨false, nesting ++ ['[']⟩ := by
  simpa using h (nesting ++ ['[']) ahead hahead

theorem endsValue_furtherItems (items : List Value) (ahead : List Char) :
    EndsValue (written (furtherItems items) ++ ahead) := by
  cases items with
  | nil => exact endsValue_cons (.inr (.inl rfl)) _
  | cons item items => exact endsValue_cons (.inl rfl) _

/-- The further items of an array lead to its end. -/
theorem passes_furtherItems {items : List Value} (h : ∀ item ∈ items, item.Reads) :
    Passes ⟨false, nesting ++ ['[']⟩ (furtherItems items) ahead ⟨inTable nesting, nesting⟩ := by
  induction items with
  | nil => exact .closeArray
  | cons item items ih =>
    obtain ⟨hitem, hitems⟩ := List.forall_mem_cons.1 h
    have hread := (hitem.item (endsValue_furtherItems items ahead)).append (ih hitems)
    refine .cons .itemSeparator (.cons (.blank ?_) hread)
    rw [written_append, List.append_assoc]
    exact isSpace_head_written item _

/-- An array is read if its items are. -/
theorem reads_array {items : List Value} (h : ∀ item ∈ items, item.Reads) :
    (array items).Reads := by
  intro nesting ahead hahead
  apply Passes.cons .openArray
  cases items with
  | nil => exact .closeArray
  | cons item items =>
    obtain ⟨hitem, hitems⟩ := List.forall_mem_cons.1 h
    exact (hitem.item (endsValue_furtherItems items ahead)).append (passes_furtherItems hitems)

/-! ### Inline tables -/

/-- Behind its value a key is expected exactly if the value is nested and stands in a table. -/
theorem Reads.assigned {value : Value} (h : value.Reads) (hahead : EndsValue ahead) :
    Passes ⟨true, nesting⟩ (.blank :: ⟨['='], .equals⟩ :: .blank :: value.parts) ahead
      ⟨value.isNested && inTable nesting, nesting⟩ := by
  have hblank := isSpace_head_written value ahead
  refine .cons (.blank ?_) (.cons .equals (.cons (.blank hblank) (h nesting ahead hahead)))
  intro c hc
  exact Option.some.inj hc ▸ by decide

theorem isKeyChar_head_blank {text : List Char} :
    ∀ c ∈ (' ' :: text).head?, isKeyChar c = false := by
  intro c hc
  exact Option.some.inj hc ▸ by decide

theorem Reads.entry {entry : BareKey × Value} (h : entry.2.Reads) (hahead : EndsValue ahead) :
    Passes ⟨true, nesting ++ ['\x7b']⟩ (partsOfEntry entry) ahead
      ⟨entry.2.isNested, nesting ++ ['\x7b']⟩ := by
  obtain ⟨key, value⟩ := entry
  have hread : Passes ⟨true, nesting ++ ['\x7b']⟩ _ ahead _ := h.assigned hahead
  rw [inTable_append_brace, Bool.and_true] at hread
  exact .cons (.key key isKeyChar_head_blank) hread

theorem isSpace_head_entry (entry : BareKey × Value) (ahead : List Char) :
    ∀ c ∈ (written (partsOfEntry entry) ++ ahead).head?, isSpace c = false := by
  obtain ⟨key, value⟩ := entry
  obtain ⟨first, text, htext, hfirst⟩ := key.exists_cons
  intro c hc
  simp only [written, partsOfEntry, List.flatMap_cons, htext] at hc
  exact Option.some.inj hc ▸ isSpace_of_startsWord hfirst

theorem endsValue_furtherEntries (afterNested : Bool) (entries : List (BareKey × Value))
    (ahead : List Char) : EndsValue (written (furtherEntries afterNested entries) ++ ahead) := by
  cases entries with
  | nil => exact endsValue_cons (.inr (.inr rfl)) _
  | cons entry entries => exact endsValue_cons (.inl rfl) _

theorem passes_furtherEntries {entries : List (BareKey × Value)}
    (h : ∀ entry ∈ entries, entry.2.Reads) (afterNested : Bool) :
    Passes ⟨afterNested, nesting ++ ['\x7b']⟩ (furtherEntries afterNested entries) ahead
      ⟨inTable nesting, nesting⟩ := by
  induction entries generalizing afterNested with
  | nil => exact .closeTable
  | cons entry entries ih =>
    obtain ⟨hentry, hentries⟩ := List.forall_mem_cons.1 h
    have hread := (hentry.entry (endsValue_furtherEntries entry.2.isNested entries ahead)).append
      (ih hentries entry.2.isNested)
    refine .cons (.entrySeparator afterNested) (.cons (.blank ?_) hread)
    rw [written_append, List.append_assoc]
    exact isSpace_head_entry entry _

theorem reads_table {entries : List (BareKey × Value)} (h : ∀ entry ∈ entries, entry.2.Reads) :
    (table entries).Reads := by
  intro nesting ahead hahead
  apply Passes.cons .openTable
  cases entries with
  | nil => exact .closeTable
  | cons entry entries =>
    obtain ⟨hentry, hentries⟩ := List.forall_mem_cons.1 h
    exact (hentry.entry (endsValue_furtherEntries entry.2.isNested entries ahead)).append
      (passes_furtherEntries hentries entry.2.isNested)

/-- Every value is read, part by part. -/
theorem reads (value : Value) : value.Reads := by
  induction value with
  | integer digits => exact fun _ _ hahead ↦ .integer digits hahead
  | boolean value => exact fun _ _ hahead ↦ .boolean value hahead
  | string quoted => exact fun _ _ hahead ↦ .string quoted hahead
  | array items ih => exact reads_array ih
  | table entries ih => exact reads_table ih

/-! ## A line -/

def line (key : BareKey) (value : Value) : Line := written (partsOfEntry (key, value))

/-- The line is read part by part, from every record outside strings and brackets, and back to such
a record in which a value is expected. -/
theorem tokenizeLine_line {record : Record} {lhs : Bool} (h : At record ⟨lhs, []⟩) (key : BareKey)
    (value : Value) (tabSize : Nat) :
    ∃ after, At after ⟨false, []⟩ ∧
      tokenizeLine mode (line key value) (.record record) tabSize =
        .ok (tokensFrom 0 ((partsOfEntry (key, value)).map Part.piece), .record after) := by
  obtain ⟨c, text, htext, hc⟩ := key.exists_cons
  -- the key at the start of the line sets the flag by itself
  have hkey : ReadsPart mode.readToken [] (.record record) key.text
      (written (.blank :: ⟨['='], .equals⟩ :: .blank :: value.parts) ++ [])
      [⟨key.text, some .attributeName⟩] (.record (record.insert "lhs" (.bool true))) := by
    refine .call key.ne_nil fun base hidden ↦ readToken_mode ?_
    refine Eq.trans ?_ (readKey_bareKey base hidden key isKeyChar_head_blank)
    rw [htext, List.cons_append]
    exact h.readToken_lineStart base hidden (isSpace_of_startsWord hc)
      (not_mem_of_startsWord hc rfl)
  have hend : EndsValue [] := by
    intro c hc
    cases hc
  obtain ⟨after, hafter, hrest⟩ :=
    value.reads.assigned hend key.text _ key.ne_nil (h.insert_lhs true)
  have hnested : (value.isNested && inTable []) = false := Bool.and_false _
  rw [hnested] at hafter
  have hne : line key value ≠ [] := List.append_ne_nil_of_left_ne_nil key.ne_nil _
  exact ⟨after, hafter, (hkey.append hrest).readsAs.tokenizeLine_eq hne tabSize⟩

end Value

end LineLexer.TomlGrammar
