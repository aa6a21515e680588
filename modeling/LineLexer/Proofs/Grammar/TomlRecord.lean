import LineLexer.Proofs.Grammar.Toml
import LineLexer.Proofs.Registry.Progress
import LineLexer.Proofs.Scan.Follows

/-!
# What TOML reads of its record

A call looks at the delimiter of an open string, at the flag for keys and at the open brackets, and
at nothing else. So records that agree in these are read alike on every text, and come to records
that agree again. At the start of a line outside strings and brackets the flag does not matter
either: there a key is expected in any case.
-/

namespace LineLexer.TomlGrammar

open Scan

/-! ## Records that agree -/

/-- The records agree in all that is read of them, and have the fields they should have. -/
structure Alike (record other : Record) : Prop where
  string : record.find? "string" = other.find? "string"
  delimited : ∀ field, record.find? "string" = some field →
    ∃ delimiter, field = .str delimiter ∧ delimiter.toList ≠ []
  lhs : ∃ flag, record.find? "lhs" = some (.bool flag) ∧ other.find? "lhs" = some (.bool flag)
  nesting : record.list "nesting" = other.list "nesting"

/-- The record is outside strings and brackets. -/
structure Outside (record : Record) : Prop where
  string : record.find? "string" = none
  nesting : record.list "nesting" = []

namespace Alike

variable {record other : Record}

theorem str?_string (h : Alike record other) : record.str? "string" = other.str? "string" := by
  rw [Record.str?, Record.str?, h.string]

theorem bool_lhs (h : Alike record other) : record.bool "lhs" = other.bool "lhs" := by
  obtain ⟨flag, hrecord, hother⟩ := h.lhs
  rw [Record.bool, Record.bool, hrecord, hother]

theorem innermost?_eq (h : Alike record other) : innermost? record = innermost? other := by
  rw [innermost?, innermost?, h.nesting]

theorem insert_lhs (h : Alike record other) (flag : Bool) :
    Alike (record.insert "lhs" (.bool flag)) (other.insert "lhs" (.bool flag)) where
  string := by simpa [Table.find?_insert] using h.string
  delimited := by simpa [Table.find?_insert] using h.delimited
  lhs := ⟨flag, by simp [Table.find?_insert], by simp [Table.find?_insert]⟩
  nesting := by simpa [Record.list, Table.find?_insert] using h.nesting

theorem insert_nesting (h : Alike record other) (brackets : List Field) :
    Alike (record.insert "nesting" (.list brackets)) (other.insert "nesting" (.list brackets)) where
  string := by simpa [Table.find?_insert] using h.string
  delimited := by simpa [Table.find?_insert] using h.delimited
  lhs := by simpa [Table.find?_insert] using h.lhs
  nesting := by simp [Record.list, Table.find?_insert]

theorem insert_string (h : Alike record other) {delimiter : String}
    (hdelimiter : delimiter.toList ≠ []) :
    Alike (record.insert "string" (.str delimiter)) (other.insert "string" (.str delimiter)) where
  string := by simp [Table.find?_insert]
  delimited := by
    intro field hfield
    rw [Table.find?_insert, if_pos rfl] at hfield
    exact ⟨delimiter, (Option.some.inj hfield).symm, hdelimiter⟩
  lhs := by simpa [Table.find?_insert] using h.lhs
  nesting := by simpa [Record.list, Table.find?_insert] using h.nesting

theorem erase_string (h : Alike record other) :
    Alike (record.erase "string") (other.erase "string") where
  string := by simp [Table.find?_erase]
  delimited := by simp [Table.find?_erase]
  lhs := by simpa [Table.find?_erase] using h.lhs
  nesting := by simpa [Record.list, Table.find?_erase] using h.nesting

theorem push (h : Alike record other) (bracket : Field) :
    Alike (record.push "nesting" bracket) (other.push "nesting" bracket) := by
  rw [Record.push, Record.push, ← h.nesting]
  exact h.insert_nesting _

theorem closeNesting (h : Alike record other) :
    Alike (closeNesting record) (closeNesting other) := by
  have hdrop := h.insert_nesting (record.list "nesting").dropLast
  rw [TomlGrammar.closeNesting, TomlGrammar.closeNesting, ← h.nesting, hdrop.innermost?_eq]
  exact hdrop.insert_lhs _

end Alike

/-- Outside strings and brackets records agree once a key is expected. -/
theorem Outside.alike_insert_lhs {record other : Record} (h : Outside record)
    (hother : Outside other) :
    Alike (record.insert "lhs" (.bool true)) (other.insert "lhs" (.bool true)) where
  string := by simp [Table.find?_insert, h.string, hother.string]
  delimited := by simp [Table.find?_insert, h.string]
  lhs := ⟨true, by simp [Table.find?_insert], by simp [Table.find?_insert]⟩
  nesting := by simpa [Record.list, Table.find?_insert] using h.nesting.trans hother.nesting.symm

/-! ## Calls -/

/-- The same class, and records that agree. -/
def AnswersAlike (answer other : Option TokenClass × Record) : Prop :=
  answer.1 = other.1 ∧ Alike answer.2 other.2

section Calls

variable {record other : Record} (h : Alike record other)
include h

theorem Alike.follows_return (cls : Option TokenClass) :
    Follows AnswersAlike (return (cls, record)) (return (cls, other)) :=
  .pure ⟨rfl, h⟩

theorem Alike.readMultiline (delimiter : List Char) :
    Follows AnswersAlike (readMultiline record delimiter) (readMultiline other delimiter) :=
  .branch _ (.bind _ fun _ ↦ h.erase_string.follows_return _) (.bind _ fun _ ↦ h.follows_return _)

theorem Alike.openMultiline {delimiter : List Char} (hdelimiter : delimiter ≠ []) :
    Follows AnswersAlike (openMultiline record delimiter) (openMultiline other delimiter) :=
  (h.insert_string (by simpa using hdelimiter)).readMultiline delimiter

theorem Alike.readKey : Follows AnswersAlike (readKey record) (readKey other) := by
  apply Follows.branch _ ((h.insert_lhs false).follows_return _)
  apply Follows.branch _ (h.follows_return _)
  apply Follows.branch _ (h.closeNesting.follows_return _)
  apply Follows.branch _ (h.follows_return _)
  exact .bind _ fun _ ↦ h.follows_return _

theorem Alike.readValue : Follows AnswersAlike (readValue record) (readValue other) := by
  have hcomma : Alike
      (if innermost? record == some "\x7b" then record.insert "lhs" (.bool true) else record)
      (if innermost? other == some "\x7b" then other.insert "lhs" (.bool true) else other) := by
    rw [h.innermost?_eq]
    split
    · exact h.insert_lhs true
    · exact h
  have hopen (c : Char) : Alike
      (if c = '\x7b' then
        Table.insert (record.push "nesting" (.str (String.singleton c))) "lhs" (.bool true)
      else record.push "nesting" (.str (String.singleton c)))
      (if c = '\x7b' then
        Table.insert (other.push "nesting" (.str (String.singleton c))) "lhs" (.bool true)
      else other.push "nesting" (.str (String.singleton c))) := by
    split
    · exact (h.push _).insert_lhs true
    · exact h.push _
  apply Follows.bind
  intro found
  cases found with
  | none => exact h.follows_return _
  | some c =>
    apply Follows.ite fun _ ↦ .bind _ fun _ ↦ (hopen c).follows_return _
    intro _
    apply Follows.ite fun _ ↦ .bind _ fun _ ↦ h.closeNesting.follows_return _
    intro _
    apply Follows.ite fun _ ↦ .bind _ fun _ ↦ hcomma.follows_return _
    intro _
    exact .bind _ fun _ ↦ h.follows_return _

theorem Alike.readContent : Follows AnswersAlike (readContent record) (readContent other) := by
  unfold TomlGrammar.readContent
  rw [h.bool_lhs, h.nesting]
  apply Follows.bind
  intro found
  apply Follows.ite fun _ ↦
    .branch _ (h.follows_return _) (.bind _ fun _ ↦ h.follows_return _)
  intro _
  apply Follows.branch _ (h.openMultiline (by simp))
  apply Follows.branch _ (h.openMultiline (by simp))
  apply Follows.bind
  intro quote
  cases quote with
  | some delimiter => exact .bind _ fun _ ↦ .bind _ fun _ ↦ h.follows_return _
  | none => exact .ite (fun _ ↦ h.readKey) fun _ ↦ h.readValue

end Calls

/-- Reads a token outside strings, with the flag for keys up to date. -/
def readOutside (record : Record) : Scan (Option TokenClass × Record) := do
  if ← eatSpace then
    return (none, record)
  if ← eatChar '#' then
    skipToEnd
    return (some .comment, record)
  readContent record

theorem Alike.readOutside {record other : Record} (h : Alike record other) :
    Follows AnswersAlike (readOutside record) (readOutside other) :=
  .branch _ (h.follows_return _)
    (.branch _ (.bind _ fun _ ↦ h.follows_return _) h.readContent)

theorem readToken_eq_readOutside {record : Record} (hstring : record.str? "string" = none)
    (cursor : Cursor) :
    readToken record cursor =
      readOutside
        (if cursor.atStart && (record.list "nesting").isEmpty then record.insert "lhs" (.bool true)
        else record) cursor := by
  unfold TomlGrammar.readToken
  rw [hstring]
  rfl

/-- Records that agree are read alike. -/
theorem Alike.readToken {record other : Record} (h : Alike record other) :
    Follows AnswersAlike (readToken record) (readToken other) := by
  cases hstring : record.str? "string" with
  | some delimiter =>
    unfold TomlGrammar.readToken
    rw [← h.str?_string, hstring]
    exact h.readMultiline _
  | none =>
    intro cursor
    rw [readToken_eq_readOutside hstring, readToken_eq_readOutside (h.str?_string ▸ hstring),
      h.nesting]
    split
    · exact fun _ _ hrun ↦ (h.insert_lhs true).readOutside hrun
    · exact fun _ _ hrun ↦ h.readOutside hrun

/-- At the start of a line a key is expected whatever the flag says. -/
theorem Outside.readToken_eq {record : Record} (h : Outside record) {cursor : Cursor}
    (hstart : cursor.atStart = true) :
    readToken record cursor = readOutside (record.insert "lhs" (.bool true)) cursor := by
  have hstring : record.str? "string" = none := by rw [Record.str?, h.string]
  rw [readToken_eq_readOutside hstring, hstart, h.nesting]
  rfl

/-! ## Lines -/

/-- Records that are read alike from the start of a line on. -/
def AlikeAtStart (record other : Record) : Prop :=
  Alike record other ∨ Outside record ∧ Outside other

theorem AlikeAtStart.delimited {record other : Record} (h : AlikeAtStart record other) :
    Delimited record := by
  intro delimiter hfound
  rcases h with h | ⟨h, _⟩
  · rw [Record.str?] at hfound
    cases hstring : record.find? "string" with
    | none =>
      rw [hstring] at hfound
      cases hfound
    | some field =>
      obtain ⟨text, rfl, htext⟩ := h.delimited field hstring
      rw [hstring] at hfound
      obtain rfl : text = delimiter := Option.some.inj hfound
      exact htext
  · rw [Record.str?, h.string] at hfound
    cases hfound

/-- What a call of the mode is, and the other way round. -/
theorem readToken_mode_iff {record : Record} {cursor reached : Cursor} {cls : Option TokenClass}
    {after : State} :
    mode.readToken (.record record) cursor = .ok ((cls, after), reached) ↔
      ∃ next, after = .record next ∧ readToken record cursor = .ok ((cls, next), reached) := by
  have hmode : mode.readToken (.record record) cursor =
      readToken record cursor >>= fun found ↦ .ok ((found.1.1, .record found.1.2), found.2) := rfl
  rw [hmode, Outcome.bind_eq_ok_iff]
  constructor
  · rintro ⟨⟨⟨_, next⟩, _⟩, hread, ⟨⟩⟩
    exact ⟨next, rfl, hread⟩
  · rintro ⟨next, rfl, hread⟩
    exact ⟨_, hread, rfl⟩

section Lines

variable {base : Cursor} {hidden passed ahead : List Char} {record other : Record} {last : State}
  {calls : List Call}

/-- The calls are made from the other record as well, with the same tokens, and the records that are
reached agree. -/
def MadeAlike (base : Cursor) (hidden passed : List Char) (other : Record) (ahead : List Char)
    (calls : List Call) (last : State) : Prop :=
  ∃ others after after', last = .record after ∧
    CallsAlong mode.readToken base hidden passed (.record other) ahead others (.record after') ∧
    others.map Call.token = calls.map Call.token ∧ Alike after after'

theorem MadeAlike.cons {text : List Char} {cls : Option TokenClass} {state after : State}
    {next : Record} (htext : text ≠ [])
    (hread : readToken other (base.placed hidden passed [] (text ++ ahead)) =
      .ok ((cls, next), base.placed hidden passed text ahead))
    (hrest : MadeAlike base hidden (passed ++ text) next ahead calls last) :
    MadeAlike base hidden passed other (text ++ ahead)
      (⟨base.placed hidden passed [] (text ++ ahead), state, cls, after,
        base.placed hidden passed text ahead⟩ :: calls) last := by
  obtain ⟨others, reached, reached', hlast, hothers, htokens, hreached⟩ := hrest
  refine ⟨_, reached, reached', hlast,
    .cons htext (readToken_mode_iff.2 ⟨next, rfl, hread⟩) hothers, ?_, hreached⟩
  rw [List.map_cons, List.map_cons, htokens]
  rfl

/-- All calls of a line are made alike. -/
theorem Alike.callsAlong (h : Alike record other)
    (hcalls : CallsAlong mode.readToken base hidden passed (.record record) ahead calls last) :
    MadeAlike base hidden passed other ahead calls last := by
  generalize hstate : State.record record = state at hcalls
  induction hcalls generalizing record other with
  | nil => exact ⟨[], record, other, hstate.symm, .nil, rfl, h⟩
  | cons htext hcall _ ih =>
    subst hstate
    obtain ⟨next, rfl, hread⟩ := readToken_mode_iff.1 hcall
    obtain ⟨⟨_, next'⟩, hread', rfl, hnext⟩ := h.readToken hread
    exact .cons htext hread' (ih hnext rfl)

/-- Outside, the first call of a line brings the records into agreement. -/
theorem Outside.callsAlong (h : Outside record) (hother : Outside other) (hahead : ahead ≠ [])
    (hcalls : CallsAlong mode.readToken base hidden [] (.record record) ahead calls last) :
    MadeAlike base hidden [] other ahead calls last := by
  cases hcalls with
  | nil => exact absurd rfl hahead
  | @cons _ text ahead _ _ _ _ _ htext hcall hrest =>
    have hstart : (base.placed hidden [] [] (text ++ ahead)).atStart = true := by
      rw [atStart_placed]
      rfl
    obtain ⟨next, rfl, hread⟩ := readToken_mode_iff.1 hcall
    rw [h.readToken_eq hstart] at hread
    obtain ⟨⟨_, next'⟩, hread', rfl, hnext⟩ := (h.alike_insert_lhs hother).readOutside hread
    rw [← hother.readToken_eq hstart] at hread'
    exact .cons htext hread' (hnext.callsAlong hrest)

/-- A line has the same tokens from both records; a line with text leaves them in agreement. -/
theorem AlikeAtStart.tokenizeLine_eq (h : AlikeAtStart record other) (line : Line) (tabSize : Nat) :
    ∃ tokens after after',
      tokenizeLine mode line (.record record) tabSize = .ok (tokens, .record after) ∧
      tokenizeLine mode line (.record other) tabSize = .ok (tokens, .record after') ∧
      AlikeAtStart after after' ∧ (Alike record other → Alike after after') := by
  by_cases hline : line = []
  · subst hline
    exact ⟨[], record, other, rfl, rfl, h, id⟩
  · obtain ⟨calls, last, hcalls, _, htokens⟩ :=
      steady_mode.exists_calls ⟨record, rfl, h.delimited⟩ hline tabSize
    obtain ⟨others, after, after', rfl, hothers, hsame, hafter⟩ :
        MadeAlike (.ofLine line tabSize) [] [] other line calls last := by
      rcases h with h | ⟨h, hother⟩
      · exact h.callsAlong hcalls
      · exact h.callsAlong hother hline hcalls
    refine ⟨_, after, after', htokens, ?_, .inl hafter, fun _ ↦ hafter⟩
    rw [hothers.tokenizeLine_eq hline, hsame]

/-- So have all lines that follow. -/
theorem AlikeAtStart.tokenizeLines_eq (h : AlikeAtStart record other) (lines : List Line)
    (tabSize : Nat) :
    ∃ runs runs', tokenizeLines mode tabSize (.record record) lines = .ok runs ∧
      tokenizeLines mode tabSize (.record other) lines = .ok runs' ∧
      runs.map Prod.fst = runs'.map Prod.fst := by
  induction lines generalizing record other with
  | nil => exact ⟨[], [], rfl, rfl, rfl⟩
  | cons line lines ih =>
    obtain ⟨tokens, after, after', hline, hline', hafter, _⟩ := h.tokenizeLine_eq line tabSize
    obtain ⟨runs, runs', hruns, hruns', hsame⟩ := ih hafter
    refine ⟨_, _, tokenizeLines_cons hline hruns, tokenizeLines_cons hline' hruns', ?_⟩
    rw [List.map_cons, List.map_cons, hsame]

end Lines

/-- Every state that the mode comes to is a record with the fields it should have. -/
theorem exists_record_of_reachable {state : State} (hstate : Reachable mode state) :
    ∃ record, state = .record record ∧ Alike record record := by
  induction hstate with
  | start baseIndent => exact ⟨_, rfl, rfl, nofun, ⟨true, rfl, rfl⟩, rfl⟩
  | @line state after line tabSize tokens _ hline ih =>
    obtain ⟨record, rfl, hrecord⟩ := ih
    obtain ⟨_, next, next', hnext, hnext', _, halike⟩ :=
      AlikeAtStart.tokenizeLine_eq (.inl hrecord) line tabSize
    obtain ⟨_, rfl⟩ := Prod.mk.inj (Except.ok.inj (hnext.symm.trans hline))
    obtain ⟨_, ⟨⟩⟩ := Prod.mk.inj (Except.ok.inj (hnext.symm.trans hnext'))
    exact ⟨next, rfl, halike hrecord⟩
  | @copy state _ ih =>
    obtain ⟨record, rfl, hrecord⟩ := ih
    exact ⟨record, rfl, hrecord⟩

end LineLexer.TomlGrammar
