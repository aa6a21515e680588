import LineLexer.Proofs.Grammar.TomlScalar
import LineLexer.Proofs.Scan.Placed

/-!
# Tokens of a TOML value

What one call reads at each position of a value, computed on a line in parts. Whether a character
belongs to a key or to a value is told by the record alone: by its flag and by the brackets that are
open.
-/

namespace LineLexer.TomlGrammar

open Scan

/-! ## Positions -/

/-- Whether a key is expected, and which brackets are open. -/
structure Position where
  lhs : Bool
  nesting : List Char

/-- The innermost open bracket is that of an inline table. -/
def inTable (nesting : List Char) : Bool := nesting.getLast? == some '\x7b'

@[simp] theorem inTable_append_bracket (nesting : List Char) :
    inTable (nesting ++ ['[']) = false := by
  simp [inTable]

@[simp] theorem inTable_append_brace (nesting : List Char) :
    inTable (nesting ++ ['\x7b']) = true := by
  simp [inTable]

/-- A record at a position outside strings. -/
structure At (record : Record) (position : Position) : Prop where
  string : record.str? "string" = none
  lhs : record.bool "lhs" = position.lhs
  nesting : record.list "nesting" = position.nesting.map fun c ↦ .str (String.singleton c)

theorem singleton_eq_brace {c : Char} : String.singleton c = "\x7b" ↔ c = '\x7b' := by
  have hbrace : "\x7b".toList = ['\x7b'] := rfl
  rw [← String.toList_inj, String.toList_singleton, hbrace, List.cons.injEq]
  simp

namespace At

variable {record : Record} {lhs : Bool} {nesting : List Char}

theorem insert_lhs (h : At record ⟨lhs, nesting⟩) (value : Bool) :
    At (record.insert "lhs" (.bool value)) ⟨value, nesting⟩ where
  string := by
    rw [Record.str?, Table.find?_insert, if_neg (by decide)]
    exact h.string
  lhs := by rw [Record.bool, Table.find?_insert, if_pos rfl]
  nesting := by
    rw [Record.list, Table.find?_insert, if_neg (by decide)]
    exact h.nesting

theorem insert_nesting (h : At record ⟨lhs, nesting⟩) (brackets : List Char) :
    At (record.insert "nesting" (.list (brackets.map fun c ↦ .str (String.singleton c))))
      ⟨lhs, brackets⟩ where
  string := by
    rw [Record.str?, Table.find?_insert, if_neg (by decide)]
    exact h.string
  lhs := by
    rw [Record.bool, Table.find?_insert, if_neg (by decide)]
    exact h.lhs
  nesting := by rw [Record.list, Table.find?_insert, if_pos rfl]

theorem push (h : At record ⟨lhs, nesting⟩) (c : Char) :
    At (record.push "nesting" (.str (String.singleton c))) ⟨lhs, nesting ++ [c]⟩ := by
  have hpush := h.insert_nesting (nesting ++ [c])
  rwa [List.map_append, ← h.nesting] at hpush

theorem innermost?_beq (h : At record ⟨lhs, nesting⟩) :
    (innermost? record == some "\x7b") = inTable nesting := by
  rw [innermost?, h.nesting, List.getLast?_map, inTable]
  cases nesting.getLast? with
  | none => rfl
  | some c =>
    rw [Bool.eq_iff_iff]
    simp [Field.str?, singleton_eq_brace]

/-- Closing leads back to the bracket around, and a key is expected if that is a table. -/
theorem closeNesting {c : Char} (h : At record ⟨lhs, nesting ++ [c]⟩) :
    At (closeNesting record) ⟨inTable nesting, nesting⟩ := by
  have hdrop : At (record.insert "nesting" (.list (record.list "nesting").dropLast))
      ⟨lhs, nesting⟩ := by
    rw [h.nesting, List.map_append, List.map_singleton, List.dropLast_concat]
    exact h.insert_nesting nesting
  rw [TomlGrammar.closeNesting, hdrop.innermost?_beq]
  exact hdrop.insert_lhs _

end At

theorem at_start : At (.ofList [("lhs", .bool true)]) ⟨true, []⟩ := ⟨rfl, rfl, rfl⟩

/-! ## Calls -/

section Calls

variable {record : Record} {passed ahead : List Char} (base : Cursor) (hidden : List Char)

/-- Outside strings a call reads content, where at the start of a line outside brackets a key is
expected. -/
theorem readToken_of_content (hstring : record.str? "string" = none) {c : Char}
    (hspace : isSpace c = false) (hcomment : c ≠ '#') :
    readToken record (base.placed hidden passed [] (c :: ahead)) =
      readContent
        (if passed.isEmpty && (record.list "nesting").isEmpty then record.insert "lhs" (.bool true)
        else record)
        (base.placed hidden passed [] (c :: ahead)) := by
  simp [readToken, hstring, bind_apply, get_apply, atStart_placed, eatSpace, eatWhile_placed,
    hspace, eatChar, eat_placed_cons, hcomment, Outcome.ok_bind]

theorem readToken_blank (hstring : record.str? "string" = none) (hpassed : passed ≠ [])
    (hahead : ∀ c ∈ ahead.head?, isSpace c = false) :
    readToken record (base.placed hidden passed [] (' ' :: ahead)) =
      .ok ((none, record), base.placed hidden passed [' '] ahead) := by
  have hspace : isSpace ' ' = true := by decide
  have hrest : ahead.takeWhile isSpace = [] ∧ ahead.dropWhile isSpace = ahead := by
    cases ahead with
    | nil => simp
    | cons c ahead => simp [hahead c rfl]
  simp [readToken, hstring, bind_apply, get_apply, atStart_placed, eatSpace, eatWhile_placed,
    hspace, hrest, hpassed, Outcome.ok_bind, pure_apply]

/-- What is no string and no header is a key or a value. -/
theorem readContent_unquoted {c : Char} (hquote : c ≠ '"') (hsingle : c ≠ '\'')
    (hheader : c ≠ '[' ∨ record.bool "lhs" = false) :
    readContent record (base.placed hidden passed [] (c :: ahead)) =
      (if record.bool "lhs" then readKey else readValue) record
        (base.placed hidden passed [] (c :: ahead)) := by
  have hmultiline {delimiter : Char} (hdelimiter : c ≠ delimiter) :
      matchText [delimiter, delimiter, delimiter] true (base.placed hidden passed [] (c :: ahead)) =
        .ok (false, base.placed hidden passed [] (c :: ahead)) :=
    matchText_placed_of_not _ _ _ _ _ (by simp [List.isPrefixOf, hdelimiter.symm])
  have hnone : (record.bool "lhs" && (record.list "nesting").isEmpty && some c == some '[') =
      false := by
    rcases hheader with hc | hlhs
    · simp [hc]
    · simp [hlhs]
  simp only [readContent, bind_apply, peek_placed, List.head?_cons, Outcome.ok_bind, hnone,
    hmultiline hquote, hmultiline hsingle, eat_placed_cons, beq_eq_false_iff_ne.2 hquote,
    beq_eq_false_iff_ne.2 hsingle, Bool.or_false, Bool.false_eq_true, if_false]
  split <;> rfl

/-- What a token is read as depends on the position. -/
theorem At.readToken_eq {position : Position} (h : At record position) (hpassed : passed ≠ [])
    {c : Char} (hspace : isSpace c = false) (hc : c ∉ ['#', '"', '\''])
    (hheader : c ≠ '[' ∨ position.lhs = false) :
    readToken record (base.placed hidden passed [] (c :: ahead)) =
      (if position.lhs then readKey else readValue) record
        (base.placed hidden passed [] (c :: ahead)) := by
  simp only [List.mem_cons, List.not_mem_nil, or_false, not_or] at hc
  obtain ⟨hcomment, hquote, hsingle⟩ := hc
  rw [← h.lhs] at hheader ⊢
  rw [readToken_of_content base hidden h.string hspace hcomment, if_neg (by simp [hpassed]),
    readContent_unquoted base hidden hquote hsingle hheader]

/-- At the start of a line outside brackets a key is expected, whatever the flag says. -/
theorem At.readToken_lineStart {lhs : Bool} (h : At record ⟨lhs, []⟩) {c : Char}
    (hspace : isSpace c = false) (hc : c ∉ ['#', '"', '\'', '[']) :
    readToken record (base.placed hidden [] [] (c :: ahead)) =
      readKey (record.insert "lhs" (.bool true)) (base.placed hidden [] [] (c :: ahead)) := by
  simp only [List.mem_cons, List.not_mem_nil, or_false, not_or] at hc
  obtain ⟨hcomment, hquote, hsingle, hheader⟩ := hc
  rw [readToken_of_content base hidden h.string hspace hcomment, if_pos (by simp [h.nesting]),
    readContent_unquoted base hidden hquote hsingle (.inl hheader), (h.insert_lhs true).lhs,
    if_pos rfl]

theorem readToken_mode {cursor reached : Cursor} {cls : Option TokenClass} {after : Record}
    (h : readToken record cursor = .ok ((cls, after), reached)) :
    mode.readToken (.record record) cursor = .ok ((cls, .record after), reached) := by
  change (readToken record cursor >>= fun found ↦
    .ok ((found.1.1, State.record found.1.2), found.2)) = _
  rw [h, Outcome.ok_bind]

/-! ### Where a key is expected -/

/-- Behind the equals sign a value is expected. -/
theorem readKey_equals :
    readKey record (base.placed hidden passed [] ('=' :: ahead)) =
      .ok ((some .operator, record.insert "lhs" (.bool false)),
        base.placed hidden passed ['='] ahead) := by
  simp only [readKey, bind_apply, eatChar_placed, Outcome.ok_bind, if_true, pure_apply,
    List.nil_append]

theorem readKey_brace :
    readKey record (base.placed hidden passed [] ('\x7d' :: ahead)) =
      .ok ((some .bracket, closeNesting record), base.placed hidden passed ['\x7d'] ahead) := by
  have hmiss {wanted : Char} (hwanted : '\x7d' ≠ wanted) :=
    eatChar_placed_of_ne base hidden passed [] ahead hwanted
  simp only [readKey, bind_apply, hmiss (show '\x7d' ≠ '=' by decide),
    hmiss (show '\x7d' ≠ '.' by decide), eatChar_placed, Outcome.ok_bind, Bool.false_eq_true,
    if_false, if_true, pure_apply, List.nil_append]

/-- A comma is no key. -/
theorem readKey_comma :
    readKey record (base.placed hidden passed [] (',' :: ahead)) =
      .ok ((some .error, record), base.placed hidden passed [','] ahead) := by
  have hmiss {wanted : Char} (hwanted : ',' ≠ wanted) :=
    eatChar_placed_of_ne base hidden passed [] ahead hwanted
  have hkey : bareKey.match? (',' :: ahead) = none := rfl
  simp only [readKey, bind_apply, hmiss (show ',' ≠ '=' by decide),
    hmiss (show ',' ≠ '.' by decide), hmiss (show ',' ≠ '\x7d' by decide),
    eatPattern_placed_none _ _ _ _ _ hkey, next_placed, Outcome.ok_bind, Bool.false_eq_true,
    if_false, pure_apply, List.nil_append]

theorem readKey_bareKey (key : BareKey) (hahead : ∀ c ∈ ahead.head?, isKeyChar c = false) :
    readKey record (base.placed hidden passed [] (key.text ++ ahead)) =
      .ok ((some .attributeName, record), base.placed hidden passed key.text ahead) := by
  have hkey : eatPattern bareKey (base.placed hidden passed [] (key.text ++ ahead)) =
      .ok (true, base.placed hidden passed key.text ahead) :=
    @eatPattern_placed_some base hidden passed [] ahead bareKey ⟨key.text, []⟩
      (match?_bareKey key hahead)
  obtain ⟨c, text, htext, hc⟩ := key.exists_cons
  obtain ⟨hequals, hdot, hbrace⟩ : c ≠ '=' ∧ c ≠ '.' ∧ c ≠ '\x7d' := by
    simpa using not_mem_of_startsWord hc (show ['=', '.', '\x7d'].any startsWord = false from rfl)
  rw [htext, List.cons_append] at hkey ⊢
  simp only [readKey, bind_apply, eatChar_placed_of_ne _ _ _ _ _ hequals,
    eatChar_placed_of_ne _ _ _ _ _ hdot, eatChar_placed_of_ne _ _ _ _ _ hbrace, hkey,
    Outcome.ok_bind, Bool.false_eq_true, if_false, if_true, pure_apply]

/-! ### Where a value is expected -/

/-- An opening bracket is one token, and behind a brace a key is expected. -/
theorem readValue_open {c : Char} (hc : c = '[' ∨ c = '\x7b') :
    readValue record (base.placed hidden passed [] (c :: ahead)) =
      .ok ((some .bracket,
          if c = '\x7b' then
            (record.push "nesting" (.str (String.singleton c))).insert "lhs" (.bool true)
          else record.push "nesting" (.str (String.singleton c))),
        base.placed hidden passed [c] ahead) := by
  simp only [readValue, bind_apply, peek_placed, List.head?_cons, next_placed, hc, if_true,
    Outcome.ok_bind, pure_apply, List.nil_append]

theorem readValue_close {c : Char} (hc : c = ']' ∨ c = '\x7d') :
    readValue record (base.placed hidden passed [] (c :: ahead)) =
      .ok ((some .bracket, closeNesting record), base.placed hidden passed [c] ahead) := by
  have hopen : ¬ (c = '[' ∨ c = '\x7b') := by rcases hc with rfl | rfl <;> decide
  simp only [readValue, bind_apply, peek_placed, List.head?_cons, next_placed, hopen, hc, if_true,
    if_false, Outcome.ok_bind, pure_apply, List.nil_append]

/-- Behind a comma in a table a key is expected. -/
theorem At.readValue_comma {lhs : Bool} {nesting : List Char} (h : At record ⟨lhs, nesting⟩) :
    readValue record (base.placed hidden passed [] (',' :: ahead)) =
      .ok ((some .punctuation,
          if inTable nesting then record.insert "lhs" (.bool true) else record),
        base.placed hidden passed [','] ahead) := by
  have hopen : ¬ (',' = '[' ∨ ',' = '\x7b') := by decide
  have hclose : ¬ (',' = ']' ∨ ',' = '\x7d') := by decide
  simp only [readValue, bind_apply, peek_placed, List.head?_cons, next_placed, hopen, hclose,
    h.innermost?_beq, if_true, if_false, Outcome.ok_bind, pure_apply, List.nil_append]

theorem readValue_scalar {c : Char} (hc : c ∉ ['[', '\x7b', ']', '\x7d', ',']) :
    readValue record (base.placed hidden passed [] (c :: ahead)) =
      readScalar (base.placed hidden passed [] (c :: ahead)) >>= fun found ↦
        .ok ((some found.1, record), found.2) := by
  simp only [List.mem_cons, List.not_mem_nil, or_false, not_or] at hc
  simp only [readValue, bind_apply, peek_placed, List.head?_cons, hc, or_self, if_false,
    Outcome.ok_bind, pure_apply]

theorem readScalar_integer (integer : Integer) (hahead : EndsValue ahead) :
    readScalar (base.placed hidden passed [] (integer.text ++ ahead)) =
      .ok (.number, base.placed hidden passed integer.text ahead) := by
  have hnumber : eatPattern number (base.placed hidden passed [] (integer.text ++ ahead)) =
      .ok (true, base.placed hidden passed integer.text ahead) :=
    @eatPattern_placed_some base hidden passed [] ahead number ⟨integer.text, []⟩
      (match?_number integer hahead)
  simp only [readScalar, bind_apply, eatPattern_placed_none _ _ _ _ _ (integer.match?_date hahead),
    eatPattern_placed_none _ _ _ _ _ (integer.match?_time hahead),
    eatPattern_placed_none _ _ _ _ _ (integer.match?_boolean ahead), hnumber, Outcome.ok_bind,
    Bool.false_eq_true, if_false, if_true, pure_apply]

theorem readScalar_boolean (value : Bool) (hahead : EndsValue ahead) :
    readScalar (base.placed hidden passed [] (booleanText value ++ ahead)) =
      .ok (.atom, base.placed hidden passed (booleanText value) ahead) := by
  have hboolean : eatPattern boolean (base.placed hidden passed [] (booleanText value ++ ahead)) =
      .ok (true, base.placed hidden passed (booleanText value) ahead) :=
    @eatPattern_placed_some base hidden passed [] ahead boolean ⟨booleanText value, []⟩
      (match?_boolean value hahead)
  have hdate : date.match? (booleanText value ++ ahead) = none := by
    cases value <;> exact match?_date_of_not_isDecimal (by decide) _
  have htime : time.match? (booleanText value ++ ahead) = none := by
    cases value <;> exact match?_time_of_not_isDecimal (by decide) _
  simp only [readScalar, bind_apply, eatPattern_placed_none _ _ _ _ _ hdate,
    eatPattern_placed_none _ _ _ _ _ htime, hboolean, Outcome.ok_bind, Bool.false_eq_true, if_false,
    if_true, pure_apply]

/-- The body of a string and its closing quote belong to it. -/
theorem quotedBody_plain {body : List Char} (hbody : ∀ c ∈ body, c ≠ '"' ∧ c ≠ '\\')
    (ahead : List Char) : quotedBody '"' false (body ++ '"' :: ahead) = body ++ ['"'] := by
  induction body with
  | nil => simp [quotedBody]
  | cons c body ih =>
    obtain ⟨⟨hquote, hbackslash⟩, hbody⟩ := List.forall_mem_cons.1 hbody
    simp [quotedBody, hquote, beq_eq_false_iff_ne.2 hbackslash, ih hbody]

theorem readContent_string (hlhs : record.bool "lhs" = false) (string : BasicString)
    (hahead : EndsValue ahead) :
    readContent record (base.placed hidden passed [] (string.text ++ ahead)) =
      .ok ((some .string, record), base.placed hidden passed string.text ahead) := by
  obtain ⟨body, hbody⟩ := string
  have htext : BasicString.text ⟨body, hbody⟩ ++ ahead = '"' :: (body ++ '"' :: ahead) := by
    simp [BasicString.text]
  have htriple : ['"', '"', '"'].isPrefixOf ('"' :: (body ++ '"' :: ahead)) = false := by
    cases body with
    | nil =>
      cases ahead with
      | nil => rfl
      | cons c ahead =>
        have hc : c ≠ '"' := by rcases hahead c rfl with rfl | rfl | rfl <;> decide
        simp [List.isPrefixOf, hc.symm]
    | cons c body => simp [List.isPrefixOf, (hbody c List.mem_cons_self).1.symm]
  have hsingle : ['\'', '\'', '\''].isPrefixOf ('"' :: (body ++ '"' :: ahead)) = false := rfl
  have hadvance := advance_placed base hidden passed ['"'] ahead (body ++ ['"'])
  rw [List.append_assoc, List.singleton_append] at hadvance
  rw [htext]
  simp only [readContent, hlhs, bind_apply, peek_placed, Bool.false_and, Outcome.ok_bind,
    matchText_placed_of_not _ _ _ _ _ htriple, matchText_placed_of_not _ _ _ _ _ hsingle,
    eat_placed_cons, beq_self_eq_true, Bool.true_or, Bool.false_eq_true, if_false, if_true,
    List.nil_append, rest_placed, quotedBody_plain hbody, hadvance, pure_apply]
  rfl

theorem At.readToken_string {nesting : List Char} (h : At record ⟨false, nesting⟩)
    (hpassed : passed ≠ []) (string : BasicString) (hahead : EndsValue ahead) :
    readToken record (base.placed hidden passed [] (string.text ++ ahead)) =
      .ok ((some .string, record), base.placed hidden passed string.text ahead) := by
  rw [← readContent_string base hidden h.lhs string hahead, BasicString.text, List.cons_append,
    List.cons_append, readToken_of_content base hidden h.string (by decide) (by decide),
    if_neg (by simp [hpassed])]

end Calls

end LineLexer.TomlGrammar
