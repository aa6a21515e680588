import LineLexer.Proofs.Grammar.ScriptTag
import LineLexer.Proofs.Registry.Embedding
import LineLexer.Proofs.Registry.Progress

/-!
# Scripts in documents

The mode of documents as the registry gives it, from every state that it comes to and on every line.
Inside a script a call answers as the script does, up to the first end of a script; there the markup
answers. When a script is entered and left is told by the tags of the markup and by the elements
that they leave open.
-/

namespace LineLexer

open HtmlGrammar Registry

namespace Registry

/-- The modes that documents are read with. -/
theorem exists_parts (options : ModeOptions) :
    ∃ ScriptFits, Parts (bundled.getMode options (.name "xml"))
      (bundled.getMode options (.name "text/javascript")) ScriptFits := by
  obtain ⟨name, helperType, props, hmarkup⟩ := getMode_xml options
  obtain ⟨ScriptFits, hscript⟩ :=
    (bundled_getMode hasBundled_bundled options (.name "text/javascript")).exists_steady
  refine ⟨ScriptFits, ⟨options.indentUnit, by rw [hmarkup]; rfl⟩, ?_, hscript⟩
  rw [hmarkup]
  exact (XmlGrammar.steady_knowsTag options.indentUnit).labelled name helperType props

/-- The calls of the mode of documents on a line. -/
theorem exists_documentCalls {spec : Spec} {config : ModeConfig}
    (hspec : bundled.resolve spec = .ok config) (hname : config.name = "htmlmixed")
    {options : ModeOptions} {state : State}
    (hstate : Reachable (bundled.getMode options spec) state) {line : Line} (hline : line ≠ [])
    (tabSize : Nat) :
    ∃ ScriptFits calls last,
      Parts (bundled.getMode options (.name "xml"))
        (bundled.getMode options (.name "text/javascript")) ScriptFits ∧
      Fits XmlGrammar.KnowsTag ScriptFits state ∧
      CallsAlong (mode (bundled.getMode options (.name "xml"))
          (bundled.getMode options (.name "text/javascript"))).readToken
        (.ofLine line tabSize) [] [] state line calls last ∧
      LineRun (bundled.getMode options spec).readToken (.ofLine line tabSize) 0 state calls none
        last ∧
      tokenizeLine (bundled.getMode options spec) line state tabSize =
        .ok (calls.map Call.token, last) := by
  obtain ⟨ScriptFits, hparts⟩ := exists_parts options
  obtain ⟨name, helperType, props, hmode⟩ := getMode_html hspec hname options
  have hsteady := hparts.steady.labelled name helperType props
  rw [hmode] at hstate ⊢
  have hfits := hsteady.fits hstate
  obtain ⟨calls, last, hcalls, hrun, htokens⟩ := hsteady.exists_calls hfits hline tabSize
  exact ⟨ScriptFits, calls, last, hparts, hfits, hcalls, hrun, htokens⟩

end Registry

/-! ## After a script start tag -/

/-- The markup after the start tag of a script at the start of a document. -/
def afterScriptTag : State :=
  .record (.ofList [("baseIndent", .int 0), ("tagStack", .list [.str "script"]),
    ("tokenize", .str "text")])

/-- A line as it is read over XML, whatever the labels of the modes are. -/
theorem exists_tokens_of_lineRun {line : Line} (hline : line ≠ []) {state last : State}
    (hrun : ∀ name helperType props, ∃ calls,
      LineRun (mode { XmlGrammar.mode 2 with name, helperType, props }
          (bundled.getMode {} (.name "text/javascript"))).readToken
        (.ofLine line 4) 0 state calls none last) :
    ∃ tokens, tokenizeLine (bundled.getMode {} (.name "text/html")) line state 4 =
      .ok (tokens, last) := by
  obtain ⟨xmlName, xmlHelperType, xmlProps, hmarkup⟩ := getMode_xml {}
  obtain ⟨name, helperType, props, hmode⟩ := getMode_html resolve_html rfl {}
  obtain ⟨calls, hrun⟩ := hrun xmlName xmlHelperType xmlProps
  rw [hmode, hmarkup]
  exact ⟨_, hrun.tokenizeLine_eq hline⟩

/-- Behind a script tag the document is in a script. -/
theorem exists_reachable_script :
    ∃ inside, Reachable (bundled.getMode {} (.name "text/html"))
      (scriptState afterScriptTag inside) := by
  have hstart : (bundled.getMode {} (.name "text/html")).start 0 =
      documentState ((XmlGrammar.mode 2).start 0) := by
    obtain ⟨_, _, _, hmarkup⟩ := getMode_xml {}
    obtain ⟨_, _, _, hmode⟩ := getMode_html resolve_html rfl {}
    rw [hmode, hmarkup]
    rfl
  have hline : ∃ tokens, tokenizeLine (bundled.getMode {} (.name "text/html")) "<script>".toList
      (documentState ((XmlGrammar.mode 2).start 0)) 4 =
        .ok (tokens, scriptState afterScriptTag
          ((bundled.getMode {} (.name "text/javascript")).start 2)) := by
    apply exists_tokens_of_lineRun (by decide)
    intro name helperType props
    -- The beginning of the tag, and its angle bracket.
    exact ⟨_, .advance (by decide) rfl (by decide) (.advance (by decide) rfl (by decide)
      (.done (by decide)))⟩
  obtain ⟨tokens, htokens⟩ := hline
  rw [← hstart] at htokens
  exact ⟨_, .line (.start 0) htokens⟩

/-! ## Reading a script -/

/-- A script ends exactly where its end first stands. On a line, from every state that the mode of
documents comes to, every call inside a script answers as the markup where the end of a script
stands and as the script elsewhere, up to the next end of a script; and the script goes on until a
call that begins where that end stands. -/
theorem script_reads_to_its_end {spec : Spec} {config : ModeConfig}
    (hspec : bundled.resolve spec = .ok config) (hname : config.name = "htmlmixed")
    (options : ModeOptions) {state : State}
    (hstate : Reachable (bundled.getMode options spec) state) {line : Line} (hline : line ≠ [])
    (tabSize : Nat) :
    ∃ calls last,
      LineRun (bundled.getMode options spec).readToken (.ofLine line tabSize) 0 state calls none
        last ∧
      tokenizeLine (bundled.getMode options spec) line state tabSize =
        .ok (calls.map Call.token, last) ∧
      ∀ before call others, calls = before ++ call :: others → InScript call.state →
        (∃ outer inside, AnswersInScript (bundled.getMode options (.name "xml"))
          (bundled.getMode options (.name "text/javascript")) line call outer inside) ∧
        ∀ found, NextScriptEnd line call.cursor.pos found →
          ∃ body leaving rest, call :: others = body ++ leaving :: rest ∧
            (∀ inner ∈ body, InScript inner.state) ∧ InScript leaving.state ∧
            leaving.cursor.pos = found := by
  obtain ⟨ScriptFits, calls, last, hparts, hfits, hcalls, hrun, htokens⟩ :=
    exists_documentCalls hspec hname hstate hline tabSize
  refine ⟨calls, last, hrun, htokens, ?_⟩
  rintro before call others rfl hinside
  obtain ⟨passed, state', ahead, rfl, hfits', hfrom⟩ := exists_calls_from hparts hcalls hfits
  obtain ⟨token, ahead', cls, after, rfl, rfl, hstep, _, _⟩ := exists_first_step hparts hfrom hfits'
  refine ⟨hstep.answersInScript hinside, fun found hfound ↦ ?_⟩
  rw [Cursor.pos_placed_visible] at hfound
  exact exists_leaving hparts hfrom hfits' hinside hfound

/-- A string that is still open does not hide the end of the script. -/
theorem script_reads_to_its_end_string :
    bundled.resolve (.name "text/html") = .ok { name := "htmlmixed" } ∧
      ∃ inside, Reachable (bundled.getMode {} (.name "text/html"))
          (scriptState afterScriptTag inside) ∧
        ∃ cls tokens last, tokenizeLine (bundled.getMode {} (.name "text/html"))
          "\"</SCRIPT>".toList (scriptState afterScriptTag inside) 4 =
            .ok (⟨0, 1, cls⟩ :: tokens, last) := by
  obtain ⟨inside, hstate⟩ := exists_reachable_script
  obtain ⟨calls, last, hrun, htokens, hcalls⟩ :=
    script_reads_to_its_end resolve_html rfl {} hstate
      (show "\"</SCRIPT>".toList ≠ [] by decide) 4
  obtain ⟨call, others, rfl, hcursor, hcall⟩ := hrun.exists_first (by decide)
  have hpos : call.cursor.pos = 0 := by rw [hcursor]; rfl
  have hnot : ¬ ScriptEndAt "\"</SCRIPT>".toList 0 := by
    intro hat
    have hbegin : ¬ BeginsScriptEnd "\"</SCRIPT>".toList := by decide
    exact hbegin ((@scriptEndAt_append [] _).1 hat)
  have hnext : NextScriptEnd "\"</SCRIPT>".toList 0 1 := by
    refine ⟨by decide, ⟨['"'], "</SCRIPT>".toList, rfl, rfl, by decide⟩, fun other _ hat ↦ ?_⟩
    exact Nat.pos_of_ne_zero fun hzero ↦ hnot (hzero ▸ hat)
  have hinside : InScript call.state := by
    rw [hcall]
    exact inScript_scriptState _ _
  obtain ⟨⟨outer, inside', hanswers⟩, _⟩ := hcalls [] call others rfl hinside
  obtain ⟨_, reached, _, _, hmove, hmin, _, _⟩ := hanswers.beforeEnd (hpos ▸ hnot)
  have hstop : call.reached.pos = 1 := by
    have hle := hmin 1 (hpos ▸ hnext)
    omega
  refine ⟨resolve_html, inside, hstate, call.cls, others.map Call.token, last, ?_⟩
  rw [htokens, List.map_cons, Call.token, hpos, hstop]

/-! ## Entering and leaving a script -/

/-- A script is entered by the angle bracket that completes a tag and leaves a script innermost: the
start tag of a script, or an end tag around which one is still open. The end tag of a script, in
upper or lower case, is read by two calls; the first leaves the script, and after the second a
script is being read exactly if one is still open once the elements are closed by the name on the
tag, letter by letter. -/
theorem script_entered_and_left_by_tags {spec : Spec} {config : ModeConfig}
    (hspec : bundled.resolve spec = .ok config) (hname : config.name = "htmlmixed")
    (options : ModeOptions) {state : State}
    (hstate : Reachable (bundled.getMode options spec) state) {line : Line} (hline : line ≠ [])
    (tabSize : Nat) :
    ∃ calls last,
      LineRun (bundled.getMode options spec).readToken (.ofLine line tabSize) 0 state calls none
        last ∧
      tokenizeLine (bundled.getMode options spec) line state tabSize =
        .ok (calls.map Call.token, last) ∧
      ∀ before call others, calls = before ++ call :: others →
        (¬ InScript call.state → (InScript call.after ↔ CompletesScriptTag line call)) ∧
        (InScript call.state → ∀ passed name rest,
          line = passed ++ (XmlGrammar.tagStart name true ++ '>' :: rest) →
          byteLength passed = call.cursor.pos → IsScriptName (String.ofList name) →
          ∃ (outer : Record) (inside : State) (second : Call) (others' : List Call),
            call.state = scriptState (.record outer) inside ∧
            others = second :: others' ∧ ¬ InScript call.after ∧ second.state = call.after ∧
            slice? line second.cursor.pos second.reached.pos = some ['>'] ∧
            (InScript second.after ↔ InnermostScript
              (XmlGrammar.closeElement (String.ofList name) (outer.list "tagStack")))) := by
  obtain ⟨ScriptFits, calls, last, hparts, hfits, hcalls, hrun, htokens⟩ :=
    exists_documentCalls hspec hname hstate hline tabSize
  refine ⟨calls, last, hrun, htokens, ?_⟩
  rintro before call others rfl
  obtain ⟨passed, state', ahead, rfl, hfits', hfrom⟩ := exists_calls_from hparts hcalls hfits
  refine ⟨inScript_after_iff hparts hfrom hfits', ?_⟩
  intro hinside passed' name rest hend hpos hscript
  obtain ⟨rfl, rfl⟩ : passed = passed' ∧ ahead = XmlGrammar.tagStart name true ++ '>' :: rest := by
    obtain ⟨_, _, _, _, _, rfl, _, _, _⟩ := exists_first_step hparts hfrom hfits'
    rw [Cursor.pos_placed_visible] at hpos
    exact append_inj_of_byteLength hend hpos.symm
  exact exists_endTag_calls hparts hscript hfrom hfits' hinside

/-- The end tag in capitals of a script that was opened in small letters. -/
theorem script_entered_and_left_by_tags_capitals :
    bundled.resolve (.name "text/html") = .ok { name := "htmlmixed" } ∧
      ∃ inside, Reachable (bundled.getMode {} (.name "text/html"))
          (scriptState afterScriptTag inside) ∧
        ∃ first second others last,
          LineRun (bundled.getMode {} (.name "text/html")).readToken
            (.ofLine "</SCRIPT>".toList 4) 0 (scriptState afterScriptTag inside)
            (first :: second :: others) none last ∧
          ¬ InScript first.after ∧ InScript second.after := by
  obtain ⟨inside, hstate⟩ := exists_reachable_script
  obtain ⟨calls, last, hrun, _, hcalls⟩ :=
    script_entered_and_left_by_tags resolve_html rfl {} hstate
      (show "</SCRIPT>".toList ≠ [] by decide) 4
  obtain ⟨first, others, rfl, hcursor, hfirst⟩ := hrun.exists_first (by decide)
  have hpos : byteLength [] = first.cursor.pos := by rw [hcursor]; rfl
  have hinside : InScript first.state := by
    rw [hfirst]
    exact inScript_scriptState _ _
  obtain ⟨outer, inside', second, others, houter, rfl, hleft, _, _, hagain⟩ :=
    (hcalls [] first others rfl).2 hinside [] "SCRIPT".toList [] rfl hpos rfl
  have hsame : State.record outer = afterScriptTag := by
    cases houter.symm.trans hfirst
    rfl
  have hinnermost : InnermostScript (XmlGrammar.closeElement "SCRIPT" (outer.list "tagStack")) := by
    cases hsame
    exact ⟨"script", rfl, rfl⟩
  exact ⟨resolve_html, inside, hstate, first, second, others, last, hrun, hleft,
    hagain.2 hinnermost⟩

/-- Such an end tag does not end the script: the line after it is read as a script. -/
theorem script_survives_end_tag_in_capitals :
    ∃ state tokens last, Reachable (bundled.getMode {} (.name "text/html")) state ∧ InScript state ∧
      tokenizeLine (bundled.getMode {} (.name "text/html")) "</SCRIPT>".toList state 4 =
        .ok (tokens, last) ∧ InScript last := by
  obtain ⟨inside, hstate⟩ := exists_reachable_script
  have hline : ∃ tokens, tokenizeLine (bundled.getMode {} (.name "text/html")) "</SCRIPT>".toList
      (scriptState afterScriptTag inside) 4 =
        .ok (tokens, scriptState afterScriptTag
          ((bundled.getMode {} (.name "text/javascript")).start 2)) := by
    apply exists_tokens_of_lineRun (by decide)
    intro name helperType props
    -- The beginning of the tag leaves the script, and its angle bracket enters it again.
    exact ⟨_, .advance (by decide) rfl (by decide) (.advance (by decide) rfl (by decide)
      (.done (by decide)))⟩
  obtain ⟨tokens, htokens⟩ := hline
  exact ⟨_, tokens, _, hstate, inScript_scriptState _ _, htokens, inScript_scriptState _ _⟩

end LineLexer
