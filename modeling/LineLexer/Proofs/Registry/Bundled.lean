import LineLexer.Grammar.Bundled
import LineLexer.Proofs.Grammar.CFamily
import LineLexer.Proofs.Grammar.Html
import LineLexer.Proofs.Grammar.Patch
import LineLexer.Proofs.Grammar.Toml
import LineLexer.Proofs.Grammar.Xml

/-!
# Modes of the bundled grammars

The modes that the bundled grammars build, one over another to any depth. All of them are steady,
and every registry of these grammars gives such a mode for every specification, whatever MIME types
it knows, as long as no extension changes the modes.
-/

namespace LineLexer

/-- A mode that the bundled grammars build. -/
inductive Bundled : Mode → Prop where
  | plainText : Bundled .plainText
  | code (dialect : CFamily.Dialect) (indentUnit : Nat) :
      Bundled (CFamily.ofDialect dialect indentUnit)
  | toml : Bundled TomlGrammar.mode
  | xml (indentUnit : Nat) : Bundled (XmlGrammar.mode indentUnit)
  | html {markup script : Mode} (hmarkup : Bundled markup) (hscript : Bundled script) :
      Bundled (HtmlGrammar.mode markup script)
  | patch {inner : Mode} (hinner : Bundled inner) : Bundled (PatchGrammar.mode inner)
  | labelled {mode : Mode} (hmode : Bundled mode) (name : String) (helperType : Option String)
      (props : Table (Overridable Property)) : Bundled { mode with name, helperType, props }

theorem Mode.steady_plainText : Mode.plainText.Steady fun state ↦ state = .stateless where
  start _ := rfl
  copy := by
    rintro _ rfl
    rfl
  skipBlankLine _ _ := rfl
  readToken := by
    rintro _ rfl
    exact Scan.Takes.skipToEnd.bind fun _ _ ↦ .pure rfl

/-- The operations of a mode do not depend on its labels. -/
theorem Mode.Steady.labelled {mode : Mode} {Fits : State → Prop} (h : mode.Steady Fits)
    (name : String) (helperType : Option String) (props : Table (Overridable Property)) :
    Mode.Steady { mode with name, helperType, props } Fits :=
  ⟨h.start, h.copy, h.skipBlankLine, h.readToken⟩

/-- Every bundled mode is steady. -/
theorem Bundled.exists_steady {mode : Mode} (h : Bundled mode) :
    ∃ Fits : State → Prop, mode.Steady Fits := by
  induction h with
  | plainText => exact ⟨_, Mode.steady_plainText⟩
  | code dialect indentUnit => exact ⟨_, CFamily.steady_ofDialect dialect indentUnit⟩
  | toml => exact ⟨_, TomlGrammar.steady_mode⟩
  | xml indentUnit => exact ⟨_, XmlGrammar.steady_mode indentUnit⟩
  | html _ _ ihMarkup ihScript =>
    obtain ⟨MarkupFits, hmarkup⟩ := ihMarkup
    obtain ⟨ScriptFits, hscript⟩ := ihScript
    exact ⟨_, HtmlGrammar.steady_mode hmarkup hscript⟩
  | patch _ ih =>
    obtain ⟨InnerFits, hinner⟩ := ih
    exact ⟨_, PatchGrammar.steady_mode hinner⟩
  | labelled _ name helperType props ih =>
    obtain ⟨Fits, hmode⟩ := ih
    exact ⟨Fits, hmode.labelled name helperType props⟩

/-! ## Registries -/

namespace Registry

/-- The registry has the bundled grammars and no extensions. -/
structure HasBundled (registry : Registry) : Prop where
  modes_eq : registry.modes = bundled.modes
  extensions_eq : registry.extensions = {}

theorem hasBundled_bundled : bundled.HasBundled := ⟨rfl, rfl⟩

/-- The bundled registry has these grammars. -/
theorem modes_bundled :
    bundled.modes.entries =
      [("clike", ⟨CFamily.grammar, []⟩), ("htmlmixed", ⟨HtmlGrammar.grammar, ["xml", "clike"]⟩),
        ("null", ⟨fun _ _ _ ↦ Mode.plainText, []⟩), ("patch", ⟨PatchGrammar.grammar, ["clike"]⟩),
        ("toml", ⟨fun _ _ _ ↦ TomlGrammar.mode, []⟩),
        ("xml", ⟨fun options _ _ ↦ XmlGrammar.mode options.indentUnit, []⟩)] := by
  rfl

/-- A bundled grammar builds a bundled mode over bundled modes. -/
theorem bundled_grammar {provide : Provider}
    (hprovide : ∀ options spec, Bundled (provide options spec)) {name : String}
    {definition : Definition} (h : bundled.modes.find? name = some definition)
    (options : ModeOptions) (config : ModeConfig) :
    Bundled (definition.grammar options config provide) := by
  have hmem := Table.mem_entries_of_find? h
  rw [modes_bundled] at hmem
  simp only [List.mem_cons, Prod.mk.injEq, List.not_mem_nil, or_false] at hmem
  rcases hmem with ⟨_, rfl⟩ | ⟨_, rfl⟩ | ⟨_, rfl⟩ | ⟨_, rfl⟩ | ⟨_, rfl⟩ | ⟨_, rfl⟩
  · exact .code _ _
  · exact .html (hprovide _ _) (hprovide _ _)
  · exact .plainText
  · exact .patch (hprovide _ _)
  · exact .toml
  · exact .xml _

theorem exists_labels_assignProps (entries : List (String × Property)) (mode : Mode) :
    ∃ props, entries.foldl (fun mode (key, value) ↦ mode.assignProp key value) mode =
      { mode with props } := by
  induction entries generalizing mode with
  | nil =>
    cases mode
    exact ⟨_, rfl⟩
  | cons entry entries ih =>
    obtain ⟨props, hprops⟩ := ih (mode.assignProp entry.1 entry.2)
    exact ⟨props, hprops⟩

/-- Without extensions a mode is what its grammar builds, but for its labels. -/
theorem instantiate?_eq {registry : Registry} (hregistry : registry.HasBundled) {provide : Provider}
    {options : ModeOptions} {config : ModeConfig} {mode : Mode}
    (h : registry.instantiate? provide options config = some mode) :
    ∃ definition, bundled.modes.find? config.name = some definition ∧
      ∃ name helperType props, mode =
        { definition.grammar options config provide with name, helperType, props } := by
  rw [instantiate?, hregistry.modes_eq, hregistry.extensions_eq] at h
  obtain ⟨definition, hfind, hmode⟩ := Option.map_eq_some_iff.1 h
  obtain ⟨props, hprops⟩ := exists_labels_assignProps config.modeProps.entries _
  exact ⟨definition, hfind, _, _, props, hmode.symm.trans hprops⟩

variable {registry : Registry} {provide : Provider}

/-- A grammar of such a registry builds a bundled mode if it is provided with bundled modes. -/
theorem bundled_instantiate? (hregistry : registry.HasBundled)
    (hprovide : ∀ options spec, Bundled (provide options spec)) {options : ModeOptions}
    {config : ModeConfig} {mode : Mode}
    (h : registry.instantiate? provide options config = some mode) : Bundled mode := by
  obtain ⟨definition, hfind, name, helperType, props, rfl⟩ := instantiate?_eq hregistry h
  exact .labelled (bundled_grammar hprovide hfind options config) name helperType props

theorem bundled_instantiate?_getD (hregistry : registry.HasBundled)
    (hprovide : ∀ options spec, Bundled (provide options spec)) (options : ModeOptions)
    (config : ModeConfig) {other : Mode} (hother : Bundled other) :
    Bundled ((registry.instantiate? provide options config).getD other) := by
  cases hmode : registry.instantiate? provide options config with
  | none => exact hother
  | some mode => exact bundled_instantiate? hregistry hprovide hmode

theorem bundled_builtInPlainText : Bundled { Mode.plainText with name := nullModeName } :=
  .labelled .plainText nullModeName none {}

theorem bundled_plainText (hregistry : registry.HasBundled)
    (hprovide : ∀ options spec, Bundled (provide options spec)) (options : ModeOptions) :
    Bundled (registry.plainText provide options) := by
  unfold plainText
  split
  · exact bundled_builtInPlainText
  · exact bundled_instantiate?_getD hregistry hprovide options _ bundled_builtInPlainText

/-- One more round of embedding gives bundled modes again. -/
theorem bundled_modeOrPlain (hregistry : registry.HasBundled)
    (hprovide : ∀ options spec, Bundled (provide options spec)) (options : ModeOptions)
    (spec : Spec) : Bundled (registry.modeOrPlain provide options spec) := by
  have hplain := bundled_plainText hregistry hprovide options
  unfold modeOrPlain
  split
  · exact hplain
  · exact bundled_instantiate?_getD hregistry hprovide options _ hplain

/-- Bundled modes are all that grammars are provided with, at every depth of embedding. -/
theorem bundled_provider (hregistry : registry.HasBundled) (depth : Nat) (options : ModeOptions)
    (spec : Spec) : Bundled (registry.provider depth options spec) := by
  induction depth generalizing options spec with
  | zero => exact bundled_builtInPlainText
  | succ depth ih => exact bundled_modeOrPlain hregistry ih options spec

/-- Every specification leads to a mode that the bundled grammars build. -/
theorem bundled_getMode (hregistry : registry.HasBundled) (options : ModeOptions) (spec : Spec) :
    Bundled (registry.getMode options spec) :=
  bundled_modeOrPlain hregistry (bundled_provider hregistry _) options spec

end Registry

end LineLexer
