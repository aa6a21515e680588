import LineLexer.Proofs.Grammar.HtmlShape
import LineLexer.Proofs.Registry.Script

/-!
# Shapes of the states of markup

The modes of XML and of documents, as the registry gives them, visit only states of the shapes that
their grammars are written for. So the grammars never fall back on what they would do without a
field.
-/

namespace LineLexer

open HtmlGrammar Registry

theorem CFamily.keeps_ofDialect (dialect : CFamily.Dialect) (indentUnit : Nat) :
    (CFamily.ofDialect dialect indentUnit).Keeps fun state ↦ ∃ value, state = .code value where
  copy := by
    rintro _ ⟨value, rfl⟩
    exact ⟨value, rfl⟩
  skipBlankLine _ h := h
  readToken := by
    rintro _ ⟨value, rfl⟩
    exact .andThen (CFamily.readToken dialect value) fun _ ↦ .pure ⟨_, rfl⟩

/-- The states at the ends of lines are visited. -/
theorem Reachable.exists_visited {mode : Mode} {state : State} (h : Reachable mode state) :
    ∃ baseIndent, Visited mode baseIndent state := by
  induction h with
  | start baseIndent => exact ⟨baseIndent, .start⟩
  | line _ hline ih =>
    obtain ⟨baseIndent, hstate⟩ := ih
    exact ⟨baseIndent, .line hstate hline⟩
  | copy _ ih =>
    obtain ⟨baseIndent, hstate⟩ := ih
    exact ⟨baseIndent, .copy hstate⟩

namespace Registry

variable {spec : Spec} {config : ModeConfig} {state : State}

/-- Whatever a specification of XML configures, its states have one of the shapes. -/
theorem shapedState_of_visited (hspec : bundled.resolve spec = .ok config)
    (hname : config.name = "xml") (options : ModeOptions) {baseIndent : Nat}
    (hstate : Visited (bundled.getMode options spec) baseIndent state) :
    XmlGrammar.ShapedState baseIndent state := by
  have hfind : bundled.modes.find? config.name =
      some ⟨fun options _ _ ↦ XmlGrammar.mode options.indentUnit, []⟩ := by
    rw [hname]
    rfl
  obtain ⟨name, helperType, props, hmode⟩ := getMode_of_find? hspec hfind options
  have hkeeps := (XmlGrammar.keeps_mode options.indentUnit baseIndent).labelled name helperType
    props
  rw [hmode] at hstate
  exact hkeeps.of_visited (XmlGrammar.shaped_start options.indentUnit baseIndent) hstate

/-- The modes that documents are read with keep their shapes, and so does the mode over them. -/
theorem shapedDocument_of_visited (hspec : bundled.resolve spec = .ok config)
    (hname : config.name = "htmlmixed") (options : ModeOptions) {baseIndent : Nat}
    (hstate : Visited (bundled.getMode options spec) baseIndent state) :
    ShapedDocument baseIndent state ∧
      ∃ outer record, state = .record record ∧
        NeedsNoFallback (bundled.getMode options (.name "xml")) outer record := by
  obtain ⟨xmlName, xmlHelperType, xmlProps, hmarkup⟩ := getMode_xml options
  obtain ⟨dialect, codeName, codeHelperType, codeProps, hscript⟩ := getMode_javaScript options
  obtain ⟨name, helperType, props, hmode⟩ := getMode_html hspec hname options
  have hxml := (XmlGrammar.keeps_mode options.indentUnit baseIndent).labelled xmlName xmlHelperType
    xmlProps
  have hcode := (CFamily.keeps_ofDialect dialect options.indentUnit).labelled codeName
    codeHelperType codeProps
  rw [hmode, hmarkup, hscript] at hstate
  rw [hmarkup]
  have hcopy (outer : State) (houter : XmlGrammar.ShapedState baseIndent outer) :
      Mode.copy { XmlGrammar.mode options.indentUnit with
        name := xmlName, helperType := xmlHelperType, props := xmlProps } outer = outer := by
    obtain ⟨_, _, rfl, _⟩ := houter
    rfl
  have hstart (indent : Nat) : ∃ value,
      Mode.start { CFamily.ofDialect dialect options.indentUnit with
        name := codeName, helperType := codeHelperType, props := codeProps } indent =
          .code value := ⟨_, rfl⟩
  have hkeeps := (HtmlGrammar.keeps_mode hxml hcopy hcode hstart).labelled name helperType props
  have hfits := hkeeps.of_visited
    (.document (XmlGrammar.shaped_start options.indentUnit baseIndent)) hstate
  have hshaped := hfits.shapedDocument
  exact ⟨hshaped, hshaped.exists_record hxml fun _ htext ↦
    XmlGrammar.exists_suggestIndent_of_text options.indentUnit htext []⟩

/-- Whatever is read, the state of XML is the record of some construct: a tag has a name and is known
to close or not, and only an open value has a delimiter. A document has such a state for its markup,
and one of a script besides only where a script is the innermost open element of text content. What
the grammars would fall back on where a field is missing is never used. -/
theorem markup_states_keep_shape (hspec : bundled.resolve spec = .ok config)
    (options : ModeOptions) {baseIndent : Nat}
    (hstate : Visited (bundled.getMode options spec) baseIndent state) :
    (config.name = "xml" → ∃ record construct, state = .record record ∧
      XmlGrammar.Shaped baseIndent construct record ∧ XmlGrammar.KnowsDelimiter record) ∧
    (config.name = "htmlmixed" → ShapedDocument baseIndent state ∧
      ∃ outer record, state = .record record ∧
        NeedsNoFallback (bundled.getMode options (.name "xml")) outer record) := by
  refine ⟨fun hname ↦ ?_, fun hname ↦ shapedDocument_of_visited hspec hname options hstate⟩
  obtain ⟨record, construct, rfl, hshaped⟩ := shapedState_of_visited hspec hname options hstate
  exact ⟨record, construct, rfl, hshaped, hshaped.knowsDelimiter⟩

/-- The state of XML in a value that is left open at the end of the line `<a b='x`. -/
def insideValue : Record :=
  .ofList [("baseIndent", .int 0), ("closing", .bool false), ("quote", .str "'"),
    ("tagName", .str "a"), ("tokenize", .str "attr")]

/-- A line that opens a value leads to this state. -/
theorem visited_insideValue :
    Visited (bundled.getMode {} (.name "xml")) 0 (.record insideValue) := by
  obtain ⟨name, helperType, props, hmode⟩ := getMode_xml {}
  rw [hmode]
  have hrun : ∃ calls, LineRun (Mode.readToken
      { XmlGrammar.mode 2 with name, helperType, props }) (.ofLine "<a b='x".toList 4) 0
        ((XmlGrammar.mode 2).start 0) calls none (.record insideValue) :=
    -- The beginning of the tag, a blank, the name of the attribute, the equals sign, the value.
    ⟨_, .advance (by decide) rfl (by decide) (.advance (by decide) rfl (by decide)
      (.advance (by decide) rfl (by decide) (.advance (by decide) rfl (by decide)
      (.advance (by decide) rfl (by decide) (.done (by decide))))))⟩
  obtain ⟨calls, hrun⟩ := hrun
  exact .line .start (hrun.tokenizeLine_eq (by decide))

/-- An open value in XML, and a script in a document. -/
theorem markup_states_keep_shape_open :
    (bundled.resolve (.name "xml") = .ok { name := "xml" } ∧
      Visited (bundled.getMode {} (.name "xml")) 0 (.record insideValue) ∧
      XmlGrammar.KnowsDelimiter insideValue) ∧
    bundled.resolve (.name "text/html") = .ok { name := "htmlmixed" } ∧
      ∃ inside baseIndent,
        Visited (bundled.getMode {} (.name "text/html")) baseIndent
          (scriptState afterScriptTag inside) ∧
        ShapedDocument baseIndent (scriptState afterScriptTag inside) := by
  obtain ⟨record, _, ⟨⟩, _, hdelimiter⟩ :=
    (markup_states_keep_shape resolve_xml {} visited_insideValue).1 rfl
  obtain ⟨inside, hreachable⟩ := exists_reachable_script
  obtain ⟨baseIndent, hstate⟩ := hreachable.exists_visited
  have hshaped := ((markup_states_keep_shape resolve_html {} hstate).2 rfl).1
  exact ⟨⟨resolve_xml, visited_insideValue, hdelimiter⟩, resolve_html, inside, baseIndent, hstate,
    hshaped⟩

end Registry

end LineLexer
