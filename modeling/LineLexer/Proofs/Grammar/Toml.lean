import LineLexer.Grammar.Toml
import LineLexer.Proofs.Highlight.Steady

/-!
# Progress in TOML

The mode of TOML is steady on records in which an open string has a delimiter to look for. An empty
delimiter would be found at once, again and again, but no token leaves one behind.
-/

namespace LineLexer.TomlGrammar

open Scan

/-- The delimiter of an open string is not empty. -/
def Delimited (record : Record) : Prop :=
  ∀ delimiter, record.str? "string" = some delimiter → delimiter.toList ≠ []

namespace Delimited

variable {record : Record}

theorem insert (h : Delimited record) {key : String} (hkey : "string" ≠ key) (field : Field) :
    Delimited (record.insert key field) := by
  intro delimiter hfound
  rw [Record.str?, Table.find?_insert, if_neg hkey] at hfound
  exact h delimiter hfound

theorem insert_string (record : Record) {delimiter : String} (hdelimiter : delimiter.toList ≠ []) :
    Delimited (record.insert "string" (.str delimiter)) := by
  intro found hfound
  rw [Record.str?, Table.find?_insert, if_pos rfl] at hfound
  rw [← Option.some.inj hfound]
  exact hdelimiter

theorem erase (record : Record) : Delimited (record.erase "string") := by
  intro delimiter hfound
  rw [Record.str?, Table.find?_erase, if_pos rfl] at hfound
  cases hfound

theorem closeNesting (h : Delimited record) : Delimited (closeNesting record) :=
  (h.insert (by decide) _).insert (by decide) _

end Delimited

/-! ## Strings -/

variable {record : Record}

theorem forward_readMultiline (h : Delimited record) (delimiter : List Char) :
    Forward (readMultiline record delimiter) fun answer ↦ Delimited answer.2 :=
  .skipOver (.pure (.erase record)) (Forward.skipToEnd.andThen fun _ ↦ .pure h)

/-- Within a string of several lines a call takes something, for the delimiter is not empty. -/
theorem takes_readMultiline (h : Delimited record) {delimiter : List Char}
    (hdelimiter : delimiter ≠ []) :
    Takes (readMultiline record delimiter) fun answer ↦ Delimited answer.2 :=
  .skipOver hdelimiter (.pure (.erase record)) (.pure h)

theorem forward_openMultiline (record : Record) {delimiter : List Char} (hdelimiter : delimiter ≠ []) :
    Forward (openMultiline record delimiter) fun answer ↦ Delimited answer.2 :=
  forward_readMultiline (.insert_string record (by simpa using hdelimiter)) delimiter

/-- The body of a quoted string is a prefix of the text ahead. -/
theorem quotedBody_prefix (delimiter : Char) (escaped : Bool) (text : List Char) :
    quotedBody delimiter escaped text <+: text := by
  induction text generalizing escaped with
  | nil => exact List.prefix_rfl
  | cons c text ih =>
    rw [quotedBody]
    split
    · exact List.prefix_append [c] text
    · exact List.cons_prefix_cons.2 ⟨rfl, ih _⟩

/-! ## Keys and values -/

theorem takes_readKey (h : Delimited record) :
    Takes (readKey record) fun answer ↦ Delimited answer.2 := by
  refine .orElse (.eatChar _) (.pure (h.insert (by decide) _)) ?_
  refine .orElse (.eatChar _) (.pure h) ?_
  refine .orElse (.eatChar _) (.pure h.closeNesting) ?_
  refine .orElse (.eatPattern (by decide)) (.pure h) ?_
  exact Takes.next.bind fun _ _ ↦ .pure h

theorem takes_readScalar : Takes readScalar fun _ ↦ True := by
  refine .orElse (.eatPattern (by decide)) (.pure trivial) ?_
  refine .orElse (.eatPattern (by decide)) (.pure trivial) ?_
  refine .orElse (.eatPattern (by decide)) (.pure trivial) ?_
  refine .orElse (.eatPattern (by decide)) (.pure trivial) ?_
  exact .orElse_not (.eatWhile _) (.pure trivial) (Takes.next.bind fun _ _ ↦ .pure trivial)

theorem takes_readValue (h : Delimited record) :
    Takes (readValue record) fun answer ↦ Delimited answer.2 := by
  have hnext (answer : Option TokenClass × Record) (hanswer : Delimited answer.2) :
      Takes (do let _ ← next; return answer) fun answer ↦ Delimited answer.2 :=
    Takes.next.bind fun _ _ ↦ .pure hanswer
  have hscalar : Takes (do return (some (← readScalar), record)) fun answer ↦ Delimited answer.2 :=
    takes_readScalar.bind fun _ _ ↦ .pure h
  have hpush (c : Char) : Delimited (record.push "nesting" (.str (String.singleton c))) :=
    h.insert (by decide) _
  intro passed ahead hahead
  refine .bind (.peek ?_)
  cases ahead with
  | nil => exact absurd rfl hahead
  | cons c ahead =>
    rw [List.head?_cons]
    dsimp only
    split
    · refine hnext _ ?_ passed _ hahead
      dsimp only
      split
      · exact (hpush c).insert (by decide) _
      · exact hpush c
    · split
      · exact hnext _ h.closeNesting passed _ hahead
      · split
        · refine hnext _ ?_ passed _ hahead
          dsimp only
          split
          · exact h.insert (by decide) _
          · exact h
        · exact hscalar passed _ hahead

/-- A quoted text is taken with its opening quote. -/
theorem forward_readQuoted (h : Delimited record) (delimiter : Char) (cls : TokenClass) :
    Forward (do
      advance (quotedBody delimiter false (← rest))
      return (some cls, record)) fun answer ↦ Delimited answer.2 := by
  intro passed token ahead
  obtain ⟨ahead', hahead⟩ := quotedBody_prefix delimiter false ahead
  exact .bind (.rest (.bind (.advance hahead.symm (.pure ⟨List.prefix_append _ _, h⟩))))

theorem takes_readContent (h : Delimited record) :
    Takes (readContent record) fun answer ↦ Delimited answer.2 := by
  have hheader : Takes (do
      if ← eatPattern header then
        return (some TokenClass.header, record)
      skipToEnd
      return (some TokenClass.error, record)) fun answer ↦ Delimited answer.2 :=
    .orElse (.eatPattern (by decide)) (.pure h) (Takes.skipToEnd.bind fun _ _ ↦ .pure h)
  intro passed ahead hahead
  refine .bind (.peek ?_)
  split
  · exact hheader passed ahead hahead
  · refine Takes.orElse (.matchText (by simp)) (forward_openMultiline record (by simp)) ?_
      passed ahead hahead
    refine .orElse (.matchText (by simp)) (forward_openMultiline record (by simp)) ?_
    intro passed ahead hahead
    refine .bind (.eat (fun delimiter _ _ _ ↦ ?_) fun _ ↦ ?_)
    · exact (forward_readQuoted h delimiter _).reads (by simp)
    · dsimp only
      split
      · exact takes_readKey h passed ahead hahead
      · exact takes_readValue h passed ahead hahead

/-- In every state with a proper delimiter a call takes something. -/
theorem takes_readToken (h : Delimited record) :
    Takes (readToken record) fun answer ↦ Delimited answer.2 := by
  unfold readToken
  cases hstring : record.str? "string" with
  | some delimiter => exact takes_readMultiline h (h delimiter hstring)
  | none =>
    have houtside {record : Record} (h : Delimited record) : Takes (do
        if ← eatSpace then
          return (none, record)
        if ← eatChar '#' then
          skipToEnd
          return (some .comment, record)
        readContent record) fun answer ↦ Delimited answer.2 := by
      refine .orElse (.eatWhile _) (.pure h) ?_
      refine .orElse (.eatChar _) (Forward.skipToEnd.andThen fun _ ↦ .pure h) ?_
      exact takes_readContent h
    intro passed ahead hahead
    have hfresh : Delimited (if (passed ++ []).isEmpty && (record.list "nesting").isEmpty then
        record.insert "lhs" (.bool true) else record) := by
      split
      · exact h.insert (by decide) _
      · exact h
    apply Reads.atStart fun atStart ↦ do
      let fresh := atStart && (record.list "nesting").isEmpty
      let record := if fresh then record.insert "lhs" (.bool true) else record
      if ← eatSpace then
        return (none, record)
      if ← eatChar '#' then
        skipToEnd
        return (some TokenClass.comment, record)
      readContent record
    dsimp only
    exact houtside hfresh passed ahead hahead

/-- The states of TOML never have an empty delimiter. -/
theorem steady_mode :
    mode.Steady fun state ↦ ∃ record, state = .record record ∧ Delimited record where
  start baseIndent := ⟨_, rfl, by intro delimiter hfound; cases hfound⟩
  copy := by
    rintro _ ⟨record, rfl, _⟩
    rfl
  skipBlankLine _ _ := rfl
  readToken := by
    rintro _ ⟨record, rfl, hrecord⟩
    exact (takes_readToken hrecord).bind fun answer hanswer ↦ .pure ⟨_, rfl, hanswer⟩

end LineLexer.TomlGrammar
