import LineLexer.Grammar.Xml
import LineLexer.Proofs.Highlight.Steady

/-!
# Progress in XML

The mode of XML is steady on records of any kind.
-/

namespace LineLexer.XmlGrammar

open Scan

variable (record : Record)

theorem forward_readUntil {terminator : List Char} (cls : TokenClass) :
    Forward (readUntil record terminator cls) fun _ ↦ True :=
  .skipOver (.pure trivial) (Forward.skipToEnd.andThen fun _ ↦ .pure trivial)

/-- Up to a terminator that is not empty something is taken, or the rest of the line. -/
theorem takes_readUntil {terminator : List Char} (hterminator : terminator ≠ []) (cls : TokenClass) :
    Takes (readUntil record terminator cls) fun _ ↦ True :=
  .skipOver hterminator (.pure trivial) (.pure trivial)

theorem forward_skipPast (c : Char) : Forward (skipPast c) fun _ ↦ True :=
  .branch (.skipToText [c]) (Forward.next.andThen fun _ ↦ .pure trivial) .skipToEnd

theorem forward_readName (closing : Bool) :
    Forward (do
      let name := (← rest).takeWhile isNameChar
      if name.isEmpty then
        return (some TokenClass.error, record)
      advance name
      let named : Record := record.insert "tagName" (.str (String.ofList name))
      let named : Record := named.insert "closing" (.bool closing)
      return (some TokenClass.tag, setConstruct named .tag)) fun _ ↦ True := by
  intro passed token ahead
  refine .bind (.rest ?_)
  dsimp only
  split
  · exact .pure ⟨List.prefix_rfl, trivial⟩
  · have hahead : ahead = ahead.takeWhile isNameChar ++ ahead.dropWhile isNameChar :=
      List.takeWhile_append_dropWhile.symm
    exact .bind (.advance hahead (.pure ⟨List.prefix_append _ _, trivial⟩))

theorem forward_readMarkup : Forward (readMarkup record) fun _ ↦ True := by
  apply Forward.branch (.matchText _) (forward_readUntil _ _)
  apply Forward.branch (.matchText _) (forward_readUntil _ _)
  apply Forward.branch (.eatChar _) (forward_readUntil _ _)
  apply Forward.branch (.eatChar _) (.andThen (forward_skipPast _) fun _ ↦ .pure trivial)
  exact .andThen (.eatChar _) fun closing ↦ forward_readName record closing

/-- Text content ends where markup or a reference begins, and those have been tried before it. -/
theorem takes_readText : Takes (readText record) fun _ ↦ True := by
  have hreference : Forward (do
      let _ ← eatWhile fun c ↦ isAlphanumeric c || c == '#'
      let closed ← eatChar ';'
      return (some (if closed then TokenClass.atom else .error), record)) fun _ ↦ True :=
    .andThen (.eatWhile _) fun _ ↦ .andThen (.eatChar _) fun _ ↦ .pure trivial
  intro passed ahead hahead
  refine .bind (.eatChar (fun _ _ ↦ (forward_readMarkup record).reads (by simp)) fun hmarkup ↦ ?_)
  refine .bind (.eatChar (fun _ _ ↦ hreference.reads (by simp)) fun hother ↦ ?_)
  refine .bind (.eatSome (fun _ _ _ htaken ↦ .pure ⟨by simpa using htaken, trivial⟩) fun hnone ↦ ?_)
  cases ahead with
  | nil => exact absurd rfl hahead
  | cons c ahead =>
    simp only [List.head?_cons, ne_eq, Option.some.injEq] at hmarkup hother
    have hrejected := hnone c rfl
    simp [hmarkup, hother] at hrejected

theorem forward_readQuoted (delimiter : Char) :
    Forward (do
      if ← skipTo delimiter then
        let _ ← next
        return (some TokenClass.string, record)
      else
        skipToEnd
        let quoted : Record := record.insert "quote" (.str (String.singleton delimiter))
        return (some TokenClass.string, setConstruct quoted .value)) fun _ ↦ True :=
  .branch (.skipToText _) (Forward.next.andThen fun _ ↦ .pure trivial)
    (Forward.skipToEnd.andThen fun _ ↦ .pure trivial)

theorem takes_readTag : Takes (readTag record) fun _ ↦ True := by
  apply Takes.orElse (.eatWhile _) (.pure trivial)
  apply Takes.orElse (.matchText (by simp)) (.pure trivial)
  apply Takes.orElse (.eatChar _) (.pure trivial)
  apply Takes.orElse (.eatChar _) (.pure trivial)
  have hname : Takes (do
      if ← eatWhile isNameChar then
        return (some TokenClass.attributeName, record)
      let _ ← next
      return (some TokenClass.error, record)) fun _ ↦ True :=
    .orElse (.eatWhile _) (.pure trivial) (Takes.next.bind fun _ _ ↦ .pure trivial)
  intro passed ahead hahead
  refine .bind (.eat (fun delimiter _ _ _ ↦ ?_) fun _ ↦ hname passed ahead hahead)
  exact (forward_readQuoted record delimiter).reads (by simp)

theorem takes_readValue : Takes (readValue record) fun _ ↦ True := by
  intro passed ahead hahead
  refine .bind (.skipToText (fun before after _ ↦ ?_) fun _ ↦ ?_)
  · exact .bind (.next (fun c _ _ ↦ .pure ⟨by simp, trivial⟩) fun hnil ↦ by simp at hnil)
  · exact .bind (.skipToEnd (.pure ⟨by simpa using hahead, trivial⟩))

/-- Whatever its record holds, a call takes something. -/
theorem takes_readToken : Takes (readToken record) fun _ ↦ True := by
  unfold readToken
  cases Construct.ofRecord record with
  | comment => exact takes_readUntil record (by simp) _
  | characterData => exact takes_readUntil record (by simp) _
  | instruction => exact takes_readUntil record (by simp) _
  | value => exact takes_readValue record
  | tag => exact takes_readTag record
  | text => exact takes_readText record

/-- Markup is steady over all records. -/
theorem steady_mode (indentUnit : Nat) :
    (mode indentUnit).Steady fun state ↦ ∃ record, state = .record record where
  start baseIndent := ⟨_, rfl⟩
  copy := by
    rintro _ ⟨record, rfl⟩
    rfl
  skipBlankLine _ _ := rfl
  readToken := by
    rintro _ ⟨record, rfl⟩
    exact (takes_readToken record).bind fun _ _ ↦ .pure ⟨_, rfl⟩

end LineLexer.XmlGrammar
