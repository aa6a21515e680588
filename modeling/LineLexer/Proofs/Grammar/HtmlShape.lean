import LineLexer.Proofs.Grammar.ScriptTag
import LineLexer.Proofs.Grammar.XmlShape

/-!
# The record of HTML

The state of a document is a record that holds the states of other modes. Every call puts back the
state it took out, so the state of the markup is always there, and the state of a script only where
the markup stands right behind a start tag of a script. What the grammar would do without them is
never done.
-/

namespace LineLexer.HtmlGrammar

open Scan XmlGrammar

/-! ## Calls -/

section Calls

variable {html script : Mode} {MarkupFits ScriptFits : State → Prop}

theorem ensures_opensScript (cls : Option TokenClass) (outer : State) :
    Ensures (opensScript cls outer) fun opened ↦ opened = true → ScriptOpen outer := by
  refine .ite (fun _ ↦ .andThen _ fun text ↦ .pure fun hopened ↦ ?_) fun _ ↦ .pure nofun
  exact (Bool.and_eq_true_iff.1 hopened).2

theorem ensures_readDocument (hhtml : html.Keeps MarkupFits)
    (hstart : ∀ baseIndent, ScriptFits (script.start baseIndent)) {outer : State}
    (houter : MarkupFits outer) :
    Ensures (readDocument html script (.ofList [("html", .state outer)])) fun answer ↦
      Fits MarkupFits ScriptFits (.record answer.2) := by
  refine (hhtml.readToken outer houter).bind fun (cls, after) hafter ↦ ?_
  refine (ensures_opensScript cls after).bind fun opened hopened ↦ .ite (fun h ↦ ?_) fun _ ↦ ?_
  · exact .pure (.script hafter (hopened h) (hstart _))
  · exact .pure (.document hafter)

/-- If markup and scripts keep their states in shape, documents do. -/
theorem keeps_mode (hhtml : html.Keeps MarkupFits)
    (hcopy : ∀ outer, MarkupFits outer → html.copy outer = outer)
    (hscript : script.Keeps ScriptFits)
    (hstart : ∀ baseIndent, ScriptFits (script.start baseIndent)) :
    (mode html script).Keeps (Fits MarkupFits ScriptFits) where
  copy := by
    intro state hstate
    cases hstate with
    | @document outer houter =>
      change Fits MarkupFits ScriptFits (documentState (html.copy outer))
      exact .document (hhtml.copy outer houter)
    | @script outer inside houter hopen hinside =>
      change Fits MarkupFits ScriptFits (scriptState (html.copy outer) (script.copy inside))
      -- To fit is not enough for this copy: a script has to be open in it.
      rw [hcopy outer houter]
      exact .script houter hopen (hscript.copy inside hinside)
  skipBlankLine _ h := h
  readToken := by
    intro state hstate
    cases hstate with
    | @document outer houter =>
      exact (ensures_readDocument hhtml hstart houter).bind fun _ hanswer ↦ .pure hanswer
    | @script outer inside houter hopen hinside =>
      refine Ensures.bind (.andThen _ fun ahead ↦ .ite (fun _ ↦ ?_) fun _ ↦ ?_) fun _ hanswer ↦
        .pure hanswer
      · exact ensures_readDocument hhtml hstart houter
      · refine (hscript.readToken inside hinside).bind fun (cls, after) hafter ↦ ?_
        exact .andThen _ fun _ ↦ .pure (.script houter hopen hafter)

end Calls

/-! ## Shapes -/

/-- The state of a document that began at an indentation: a field for the state of the markup, and
one for the state of a script where a script is the innermost open element. -/
inductive ShapedDocument (baseIndent : Nat) : State → Prop where
  | document {outer : Record} {construct : Construct} (houter : Shaped baseIndent construct outer) :
      ShapedDocument baseIndent (documentState (.record outer))
  | script {outer : Record} {value : CodeState} (houter : Shaped baseIndent .text outer)
      (hopen : InnermostScript (outer.list "tagStack")) :
      ShapedDocument baseIndent (scriptState (.record outer) (.code value))

/-- In the bundled document markup is of its own shape, and a script is code. -/
theorem Fits.shapedDocument {baseIndent : Nat} {state : State}
    (h : Fits (ShapedState baseIndent) (fun inside ↦ ∃ value, inside = .code value) state) :
    ShapedDocument baseIndent state := by
  cases h with
  | document houter =>
    obtain ⟨outer, construct, rfl, houter⟩ := houter
    exact .document houter
  | script houter hopen hinside =>
    obtain ⟨outer, construct, rfl, houter⟩ := houter
    obtain ⟨value, rfl⟩ := hinside
    have htext : Construct.ofRecord outer = .text := scriptOpen_text hopen
    obtain rfl : construct = .text := houter.ofRecord_eq.symm.trans htext
    exact .script houter ((scriptOpen_iff htext).1 hopen)

/-- Nothing is read without a state to read it from: the state of the markup is there, before a
script ends and after, the state of a script is there where its field is, and where the markup opens
a script it suggests an indentation for it. -/
structure NeedsNoFallback (markup : Mode) (outer record : Record) : Prop where
  html : record.state? "html" = some (.record outer)
  html_after : Record.state? (record.erase "local") "html" = some (.record outer)
  inside : record.contains "local" = true → ∃ inside, record.state? "local" = some inside
  indent : ∀ {cursor reached last : Cursor} {cls : Option TokenClass} {next : State},
    markup.readToken (.record outer) cursor = .ok ((cls, next), reached) →
    opensScript cls next reached = .ok (true, last) →
    ∃ base, markup.suggestIndent next [] = some base
  delimiter : KnowsDelimiter outer

theorem ShapedDocument.exists_record {baseIndent : Nat} {state : State}
    (h : ShapedDocument baseIndent state) {markup : Mode}
    (hmarkup : markup.Keeps (ShapedState baseIndent))
    (hindent : ∀ outer : Record, Construct.ofRecord outer = .text →
      ∃ base, markup.suggestIndent (.record outer) [] = some base) :
    ∃ outer record, state = .record record ∧ NeedsNoFallback markup outer record := by
  have hopens {outer : Record} {construct : Construct} (houter : Shaped baseIndent construct outer)
      {cursor reached last : Cursor} {cls : Option TokenClass} {next : State}
      (hcall : markup.readToken (.record outer) cursor = .ok ((cls, next), reached))
      (hopened : opensScript cls next reached = .ok (true, last)) :
      ∃ base, markup.suggestIndent next [] = some base := by
    obtain ⟨after, _, rfl, _⟩ := (hmarkup.readToken _ ⟨outer, construct, rfl, houter⟩).of_run hcall
    exact hindent after (scriptOpen_text ((ensures_opensScript cls _).of_run hopened rfl))
  cases h with
  | @document outer construct houter =>
    exact ⟨outer, _, rfl,
      { html := rfl
        html_after := rfl
        inside := nofun
        indent := hopens houter
        delimiter := houter.knowsDelimiter }⟩
  | @script outer value houter hopen =>
    exact ⟨outer, _, rfl,
      { html := rfl
        html_after := rfl
        inside := fun _ ↦ ⟨.code value, rfl⟩
        indent := hopens houter
        delimiter := houter.knowsDelimiter }⟩

end LineLexer.HtmlGrammar
