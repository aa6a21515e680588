import LineLexer.Proofs.Grammar.TomlShape
import LineLexer.Proofs.Mode.Walk
import LineLexer.Proofs.Registry.Shapes

/-!
# The mode at work

The bundled grammars of diffs and of documents report the modes inside them, the others report
nothing. From every state that a mode of the registry visits, however deep diffs and documents are
nested in it, the walk along these reports goes one record deeper with each step. It ends at a mode
of plain text, of code, of TOML or of XML, and in a state of the kind that this mode reads.
-/

namespace LineLexer

/-- What reads tokens reads a state of its own kind, as the grammar it belongs to does, and has not
to pass over one it does not know. -/
inductive AtWork (read : TokenOp) : State → Prop where
  | plainText (hread : read .stateless = Mode.plainText.readToken .stateless) :
      AtWork read .stateless
  | code (dialect : CFamily.Dialect) {value : CodeState}
      (hread : read (.code value) = do
        let (cls, after) ← CFamily.readToken dialect value
        return (cls, .code after)) : AtWork read (.code value)
  | toml {record : Record}
      (hread : read (.record record) = do
        let (cls, after) ← TomlGrammar.readToken record
        return (cls, .record after)) : AtWork read (.record record)
  | xml {record : Record}
      (hread : read (.record record) = do
        let (cls, after) ← XmlGrammar.readToken record
        return (cls, .record after)) : AtWork read (.record record)

/-- The mode is the one that was built, but for its labels. -/
def Mode.Relabels (mode built : Mode) : Prop :=
  ∃ name helperType props, mode = { built with name, helperType, props }

/-- The mode to be found inside a mode, and its state: a mode without others inside it is found
itself, and one with others leads to what is to be found in one of them. -/
inductive Finds : Mode → State → Mode → State → Prop where
  | leaf {mode : Mode} {state : State} (hleaf : mode.delegate state = none)
      (hwork : AtWork mode.readToken state) : Finds mode state mode state
  | patch {mode inner leaf : Mode} {record : Record} {nested inside : State}
      (hmode : mode.Relabels (PatchGrammar.mode inner))
      (hnested : record.state? "inner" = some nested) (hinner : Finds inner nested leaf inside) :
      Finds mode (.record record) leaf inside
  | script {mode html script leaf : Mode} {record : Record} {nested inside : State}
      (hmode : mode.Relabels (HtmlGrammar.mode html script))
      (hlocal : record.state? "local" = some nested) (hscript : Finds script nested leaf inside) :
      Finds mode (.record record) leaf inside
  | markup {mode html script leaf : Mode} {record : Record} {outer inside : State}
      (hmode : mode.Relabels (HtmlGrammar.mode html script))
      (hlocal : record.state? "local" = none) (hhtml : record.state? "html" = some outer)
      (hmarkup : Finds html outer leaf inside) : Finds mode (.record record) leaf inside

/-! ## Reports -/

section Reports

variable {inner html script : Mode} {record : Record} {nested outer : State}

theorem PatchGrammar.delegate_eq (hnested : record.state? "inner" = some nested) :
    (PatchGrammar.mode inner).delegate (.record record) = some (.nested inner nested) := by
  change (PatchGrammar.innerState? (.record record)).map (Delegate.nested inner) = _
  simp [PatchGrammar.innerState?, State.record?, hnested]

theorem HtmlGrammar.delegate_of_script (hlocal : record.state? "local" = some nested) :
    (HtmlGrammar.mode html script).delegate (.record record) = some (.nested script nested) := by
  change HtmlGrammar.delegate html script (.record record) = _
  simp [HtmlGrammar.delegate, State.record?, hlocal]

theorem HtmlGrammar.delegate_of_markup (hlocal : record.state? "local" = none)
    (hhtml : record.state? "html" = some outer) :
    (HtmlGrammar.mode html script).delegate (.record record) = some (.nested html outer) := by
  change HtmlGrammar.delegate html script (.record record) = _
  simp [HtmlGrammar.delegate, State.record?, hlocal, hhtml]

end Reports

namespace Finds

variable {mode leaf : Mode} {state inside : State}

/-- Each step of the walk goes one record deeper. -/
theorem exists_walk (h : Finds mode state leaf inside) :
    ∃ steps, mode.Walk state steps leaf inside ∧ state.Holds steps inside := by
  induction h with
  | leaf hleaf => exact ⟨0, .nothing hleaf, .itself⟩
  | patch hmode hnested _ ih =>
    obtain ⟨_, _, _, rfl⟩ := hmode
    exact Mode.exists_walk_nested (PatchGrammar.delegate_eq hnested) hnested ih
  | script hmode hlocal _ ih =>
    obtain ⟨_, _, _, rfl⟩ := hmode
    exact Mode.exists_walk_nested (HtmlGrammar.delegate_of_script hlocal) hlocal ih
  | markup hmode hlocal hhtml _ ih =>
    obtain ⟨_, _, _, rfl⟩ := hmode
    exact Mode.exists_walk_nested (HtmlGrammar.delegate_of_markup hlocal hhtml) hhtml ih

/-- Where the search ends nothing is delegated any more. -/
theorem at_leaf (h : Finds mode state leaf inside) :
    leaf.delegate inside = none ∧ AtWork leaf.readToken inside := by
  induction h with
  | leaf hleaf hwork => exact ⟨hleaf, hwork⟩
  | patch _ _ _ ih => exact ih
  | script _ _ _ ih => exact ih
  | markup _ _ _ _ ih => exact ih

/-- Under other labels a mode without others inside it is found under these labels. -/
theorem labelled (h : Finds mode state leaf inside) (name : String) (helperType : Option String)
    (props : Table (Overridable Property)) :
    ∃ leaf, Finds { mode with name, helperType, props } state leaf inside := by
  cases h with
  | leaf hleaf hwork => exact ⟨_, .leaf hleaf hwork⟩
  | patch hmode hnested hinner =>
    obtain ⟨_, _, _, rfl⟩ := hmode
    exact ⟨leaf, .patch ⟨_, _, _, rfl⟩ hnested hinner⟩
  | script hmode hlocal hscript =>
    obtain ⟨_, _, _, rfl⟩ := hmode
    exact ⟨leaf, .script ⟨_, _, _, rfl⟩ hlocal hscript⟩
  | markup hmode hlocal hhtml hmarkup =>
    obtain ⟨_, _, _, rfl⟩ := hmode
    exact ⟨leaf, .markup ⟨_, _, _, rfl⟩ hlocal hhtml hmarkup⟩

end Finds

/-! ## States of bundled modes -/

/-- The mode starts in the states described and stays in them, its copies of them are the states
themselves, and from each of them there is a mode to be found. -/
structure Mode.Settles (mode : Mode) (Fits : State → Prop) : Prop extends mode.Keeps Fits where
  start : ∀ baseIndent, Fits (mode.start baseIndent)
  copy_eq : ∀ state, Fits state → mode.copy state = state
  finds : ∀ state, Fits state → ∃ leaf inside, Finds mode state leaf inside

namespace Mode.Settles

variable {mode inner html script : Mode} {Fits InnerFits MarkupFits ScriptFits : State → Prop}

theorem plainText : Mode.plainText.Settles fun state ↦ state = .stateless where
  copy := by
    rintro _ rfl
    rfl
  skipBlankLine _ h := h
  readToken := by
    rintro _ rfl
    exact .andThen _ fun _ ↦ .pure rfl
  start _ := rfl
  copy_eq := by
    rintro _ rfl
    rfl
  finds := by
    rintro _ rfl
    exact ⟨_, _, .leaf rfl (.plainText rfl)⟩

theorem code (dialect : CFamily.Dialect) (indentUnit : Nat) :
    (CFamily.ofDialect dialect indentUnit).Settles fun state ↦ ∃ value, state = .code value where
  toKeeps := CFamily.keeps_ofDialect dialect indentUnit
  start _ := ⟨_, rfl⟩
  copy_eq := by
    rintro _ ⟨value, rfl⟩
    rfl
  finds := by
    rintro _ ⟨value, rfl⟩
    exact ⟨_, _, .leaf rfl (.code dialect rfl)⟩

theorem toml : TomlGrammar.mode.Settles TomlGrammar.ShapedState where
  toKeeps := TomlGrammar.keeps_mode
  start := TomlGrammar.shaped_start
  copy_eq := by
    rintro _ ⟨record, rfl, _⟩
    rfl
  finds := by
    rintro _ ⟨record, rfl, _⟩
    exact ⟨_, _, .leaf rfl (.toml rfl)⟩

theorem xml (indentUnit : Nat) :
    (XmlGrammar.mode indentUnit).Settles
      fun state ↦ ∃ baseIndent, XmlGrammar.ShapedState baseIndent state where
  copy := by
    rintro _ ⟨baseIndent, h⟩
    exact ⟨baseIndent, (XmlGrammar.keeps_mode indentUnit baseIndent).copy _ h⟩
  skipBlankLine _ h := h
  readToken := by
    rintro _ ⟨baseIndent, h⟩
    exact ((XmlGrammar.keeps_mode indentUnit baseIndent).readToken _ h).mono fun _ hafter ↦
      ⟨baseIndent, hafter⟩
  start baseIndent := ⟨baseIndent, XmlGrammar.shaped_start indentUnit baseIndent⟩
  copy_eq := by
    rintro _ ⟨_, record, _, rfl, _⟩
    rfl
  finds := by
    rintro _ ⟨_, record, _, rfl, _⟩
    exact ⟨_, _, .leaf rfl (.xml rfl)⟩

theorem patch (hinner : inner.Settles InnerFits) :
    (PatchGrammar.mode inner).Settles (PatchGrammar.Fits InnerFits) where
  toKeeps := PatchGrammar.keeps_mode hinner.toKeeps
  start baseIndent := ⟨_, rfl, hinner.start baseIndent⟩
  copy_eq := by
    rintro _ ⟨nested, rfl, _⟩
    rfl
  finds := by
    rintro _ ⟨nested, rfl, hnested⟩
    obtain ⟨leaf, inside, hfinds⟩ := hinner.finds nested hnested
    exact ⟨leaf, inside, .patch ⟨_, _, _, rfl⟩ rfl hfinds⟩

theorem document (hhtml : html.Settles MarkupFits) (hscript : script.Settles ScriptFits) :
    (HtmlGrammar.mode html script).Settles (HtmlGrammar.Fits MarkupFits ScriptFits) where
  toKeeps := HtmlGrammar.keeps_mode hhtml.toKeeps hhtml.copy_eq hscript.toKeeps hscript.start
  start baseIndent := .document (hhtml.start baseIndent)
  copy_eq := by
    intro state hstate
    cases hstate with
    | @document outer houter =>
      change HtmlGrammar.documentState (html.copy outer) = _
      rw [hhtml.copy_eq outer houter]
    | @script outer inside houter _ hinside =>
      change HtmlGrammar.scriptState (html.copy outer) (script.copy inside) = _
      rw [hhtml.copy_eq outer houter, hscript.copy_eq inside hinside]
  finds := by
    intro state hstate
    cases hstate with
    | @document outer houter =>
      obtain ⟨leaf, inside, hfinds⟩ := hhtml.finds outer houter
      exact ⟨leaf, inside, .markup ⟨_, _, _, rfl⟩ rfl rfl hfinds⟩
    | @script outer nested _ _ hnested =>
      obtain ⟨leaf, inside, hfinds⟩ := hscript.finds nested hnested
      exact ⟨leaf, inside, .script ⟨_, _, _, rfl⟩ rfl hfinds⟩

theorem labelled (h : mode.Settles Fits) (name : String) (helperType : Option String)
    (props : Table (Overridable Property)) :
    Mode.Settles { mode with name, helperType, props } Fits where
  toKeeps := h.toKeeps.labelled name helperType props
  start := h.start
  copy_eq := h.copy_eq
  finds := by
    intro state hstate
    obtain ⟨leaf, inside, hfinds⟩ := h.finds state hstate
    obtain ⟨leaf, hfinds⟩ := hfinds.labelled name helperType props
    exact ⟨leaf, inside, hfinds⟩

end Mode.Settles

/-- Every bundled mode settles. -/
theorem Bundled.exists_settles {mode : Mode} (h : Bundled mode) :
    ∃ Fits : State → Prop, mode.Settles Fits := by
  induction h with
  | plainText => exact ⟨_, .plainText⟩
  | code dialect indentUnit => exact ⟨_, .code dialect indentUnit⟩
  | toml => exact ⟨_, .toml⟩
  | xml indentUnit => exact ⟨_, .xml indentUnit⟩
  | html _ _ ihMarkup ihScript =>
    obtain ⟨_, hmarkup⟩ := ihMarkup
    obtain ⟨_, hscript⟩ := ihScript
    exact ⟨_, .document hmarkup hscript⟩
  | patch _ ih =>
    obtain ⟨_, hinner⟩ := ih
    exact ⟨_, .patch hinner⟩
  | labelled _ name helperType props ih =>
    obtain ⟨_, hmode⟩ := ih
    exact ⟨_, hmode.labelled name helperType props⟩

namespace Registry

/-! ## Modes by name -/

/-- What the search finds in the modes of the bundled grammars. In a diff it is what the search
finds in the mode of its content, in a document the mode of a script as long as there is one, or
else that of markup. -/
structure FindsByName (options : ModeOptions) (config : ModeConfig) (mode : Mode) (state : State) :
    Prop where
  patch : config.name = "patch" → ∃ (record : Record) (nested : State), state = .record record ∧
    record.state? "inner" = some nested ∧
    mode.innermost state = (bundled.getMode options (.name (innerName config))).innermost nested
  document : config.name = "htmlmixed" → ∃ record : Record, state = .record record ∧
    (∀ inside, record.state? "local" = some inside →
      mode.innermost state = (bundled.getMode options (.name "text/javascript"), inside)) ∧
    (record.state? "local" = none → ∃ outer, record.state? "html" = some outer ∧
      mode.innermost state = (bundled.getMode options (.name "xml"), outer))
  leaf : config.name ∈ ["clike", "null", "toml", "xml"] → mode.innermost state = (mode, state)

variable {spec : Spec} {config : ModeConfig} {baseIndent : Nat} {state : State}

/-- From a diff the search goes on in its content. -/
theorem innermost_patch (hspec : bundled.resolve spec = .ok config) (hname : config.name = "patch")
    (options : ModeOptions) (hstate : Visited (bundled.getMode options spec) baseIndent state) :
    ∃ (record : Record) (nested : State), state = .record record ∧
      record.state? "inner" = some nested ∧
      (bundled.getMode options spec).innermost state =
        (bundled.getMode options (.name (innerName config))).innermost nested := by
  obtain ⟨name, helperType, props, hmode⟩ := getMode_patch hspec hname options
  obtain ⟨_, hinner⟩ :=
    (bundled_getMode hasBundled_bundled options (.name (innerName config))).exists_settles
  have hpatch := hinner.patch.labelled name helperType props
  rw [hmode] at hstate ⊢
  obtain ⟨nested, rfl, _⟩ := hpatch.of_visited (hpatch.start baseIndent) hstate
  exact ⟨_, nested, rfl, rfl, Mode.innermost_nested rfl⟩

/-- From a document the search goes on in a script or in markup. -/
theorem innermost_document (hspec : bundled.resolve spec = .ok config)
    (hname : config.name = "htmlmixed") (options : ModeOptions)
    (hstate : Visited (bundled.getMode options spec) baseIndent state) :
    ∃ record : Record, state = .record record ∧
      (∀ inside, record.state? "local" = some inside →
        (bundled.getMode options spec).innermost state =
          (bundled.getMode options (.name "text/javascript"), inside)) ∧
      (record.state? "local" = none → ∃ outer, record.state? "html" = some outer ∧
        (bundled.getMode options spec).innermost state =
          (bundled.getMode options (.name "xml"), outer)) := by
  have hmarkup (outer : State) :
      (bundled.getMode options (.name "xml")).delegate outer = none := by
    obtain ⟨_, _, _, hxml⟩ := getMode_xml options
    rw [hxml]
    rfl
  have hscript (inside : State) :
      (bundled.getMode options (.name "text/javascript")).delegate inside = none := by
    obtain ⟨_, _, _, _, hcode⟩ := getMode_javaScript options
    rw [hcode]
    rfl
  obtain ⟨name, helperType, props, hmode⟩ := getMode_html hspec hname options
  obtain ⟨hshaped, -⟩ := shapedDocument_of_visited hspec hname options hstate
  rw [hmode]
  cases hshaped with
  | document =>
    refine ⟨_, rfl, nofun, fun _ ↦ ⟨_, rfl, ?_⟩⟩
    exact (Mode.innermost_nested rfl).trans (Mode.innermost_eq_self (hmarkup _))
  | script =>
    refine ⟨_, rfl, ?_, nofun⟩
    rintro _ ⟨⟩
    exact (Mode.innermost_nested rfl).trans (Mode.innermost_eq_self (hscript _))

/-- From the other grammars the search goes nowhere. -/
theorem innermost_leaf (hspec : bundled.resolve spec = .ok config)
    (hname : config.name ∈ ["clike", "null", "toml", "xml"]) (options : ModeOptions)
    (state : State) :
    (bundled.getMode options spec).innermost state = (bundled.getMode options spec, state) := by
  have hnone : ∃ definition, bundled.modes.find? config.name = some definition ∧
      ∀ provide, (definition.grammar options config provide).delegate state = none := by
    simp only [List.mem_cons, List.not_mem_nil, or_false] at hname
    rcases hname with hname | hname | hname | hname <;> rw [hname] <;>
      exact ⟨_, rfl, fun _ ↦ rfl⟩
  obtain ⟨definition, hfind, hdelegate⟩ := hnone
  obtain ⟨name, helperType, props, hmode⟩ := getMode_of_find? hspec hfind options
  apply Mode.innermost_eq_self
  rw [hmode]
  exact hdelegate _

/-- The search for the mode at work comes to an end in every state that a mode of the registry
visits, whatever MIME types are known to it and however deep its modes are nested. It follows as
many reports as the state found lies records deep in the state searched, to a mode that reports
nothing and is at work on a state of its own kind. -/
theorem innermost_finds_leaf (options : ModeOptions) (spec : Spec) (baseIndent : Nat)
    (state : State) :
    (∀ registry : Registry, registry.HasBundled →
      Visited (registry.getMode options spec) baseIndent state →
      ∃ steps leaf inside,
        Finds (registry.getMode options spec) state leaf inside ∧
        (registry.getMode options spec).Walk state steps leaf inside ∧
        (registry.getMode options spec).innermost state = (leaf, inside) ∧
        state.Holds steps inside ∧ leaf.delegate inside = none ∧ AtWork leaf.readToken inside) ∧
    ∀ config, bundled.resolve spec = .ok config →
      Visited (bundled.getMode options spec) baseIndent state →
      FindsByName options config (bundled.getMode options spec) state := by
  refine ⟨fun registry hregistry hstate ↦ ?_, fun config hspec hstate ↦ ?_⟩
  · obtain ⟨Fits, hsettles⟩ := (bundled_getMode hregistry options spec).exists_settles
    have hfits := hsettles.of_visited (hsettles.start baseIndent) hstate
    obtain ⟨leaf, inside, hfinds⟩ := hsettles.finds state hfits
    obtain ⟨steps, hwalk, hholds⟩ := hfinds.exists_walk
    exact ⟨steps, leaf, inside, hfinds, hwalk, hwalk.innermost_eq, hholds, hfinds.at_leaf⟩
  · exact
      { patch := fun hname ↦ innermost_patch hspec hname options hstate
        document := fun hname ↦ innermost_document hspec hname options hstate
        leaf := fun hname ↦ innermost_leaf hspec hname options state }

/-- Inside a script of a document the mode of scripts is at work. -/
theorem innermost_finds_leaf_script :
    ∃ inside baseIndent,
      Visited (bundled.getMode {} (.name "text/html")) baseIndent
        (HtmlGrammar.scriptState afterScriptTag inside) ∧
      (bundled.getMode {} (.name "text/html")).innermost
          (HtmlGrammar.scriptState afterScriptTag inside) =
        (bundled.getMode {} (.name "text/javascript"), inside) ∧
      AtWork (bundled.getMode {} (.name "text/javascript")).readToken inside := by
  obtain ⟨inside, hreachable⟩ := exists_reachable_script
  obtain ⟨baseIndent, hstate⟩ := hreachable.exists_visited
  obtain ⟨hleaf, hname⟩ := innermost_finds_leaf {} (.name "text/html") baseIndent
    (HtmlGrammar.scriptState afterScriptTag inside)
  obtain ⟨record, ⟨⟩, hscript, -⟩ := (hname _ resolve_html hstate).document rfl
  have hinnermost := hscript inside rfl
  obtain ⟨_, leaf, found, -, -, hfound, -, -, hwork⟩ := hleaf bundled hasBundled_bundled hstate
  obtain ⟨rfl, rfl⟩ := Prod.mk.inj (hinnermost.symm.trans hfound)
  exact ⟨inside, baseIndent, hstate, hinnermost, hwork⟩

end Registry

end LineLexer
