import LineLexer.Proofs.Registry.Bundled
import LineLexer.Proofs.Registry.Resolution
import LineLexer.Proofs.Table

/-!
# The modes that bundled modes embed

The registry of the bundled grammars gives every mode by name through modes that are at most two
levels deep. So the mode that the grammar of diffs is given for its option `inner` is the one the
registry gives for that name to anybody, and so are the modes of markup and scripts that the grammar
of documents is given.
-/

namespace LineLexer

namespace Registry

/-! ## Options of resolved names -/

/-- The specification does not set an option. -/
def leaves (key : String) : Spec → Bool
  | .name _ => true
  | .config config => !config.options.contains key

theorem find?_options_of_leaves {key : String} {config : ModeConfig}
    (h : leaves key (.config config) = true) : config.options.find? key = none := by
  simpa [leaves, Table.contains] using h

/-- Where no alias sets an option, following aliases does not set it. -/
theorem find?_options_resolveFrom {mimes : Table Spec} {key : String}
    (hmimes : ∀ name next, mimes.find? name = some next → leaves key next = true)
    {seen : List String} {spec : Spec} (hspec : leaves key spec = true) {config : ModeConfig}
    (h : resolveFrom mimes seen spec = .ok config) : config.options.find? key = none := by
  fun_induction resolveFrom mimes seen spec generalizing config with
  | case1 seen spec name hfind =>
    obtain rfl := Except.ok.inj h
    cases spec with
    | name _ => rfl
    | config config => exact find?_options_of_leaves hspec
  | case2 => cases h
  | case3 seen spec name next hfind hseen ih =>
    obtain ⟨inherited, hnext, rfl⟩ := Outcome.map_eq_ok_iff.1 h
    have hinherited := ih (hmimes name next hfind) hnext
    cases spec with
    | name _ => exact hinherited
    | config config =>
      exact Table.find?_overlay_eq_none hinherited (find?_options_of_leaves hspec)

/-- No bundled MIME type names the content of a diff. -/
theorem mimes_bundled_leave_inner {name : String} {next : Spec}
    (h : bundled.mimes.find? name = some next) : leaves "inner" next = true := by
  have hall : bundled.mimes.entries.all (fun entry ↦ leaves "inner" entry.2) = true := by rfl
  exact List.all_eq_true.1 hall (name, next) (Table.mem_entries_of_find? h)

/-- So a name never resolves to a diff of a certain content. -/
theorem str?_inner_of_resolve_name {name : String} {config : ModeConfig}
    (h : bundled.resolve (.name name) = .ok config) : config.str? "inner" = none := by
  have hspec : leaves "inner" (.name name) = true := rfl
  have hnone := find?_options_resolveFrom (fun _ _ ↦ mimes_bundled_leave_inner) hspec h
  rw [ModeConfig.str?, hnone]
  rfl

theorem resolve_xml : bundled.resolve (.name "xml") = .ok { name := "xml" } :=
  resolveFrom_of_find?_eq_none rfl

theorem resolve_clike : bundled.resolve (.name "clike") = .ok { name := "clike" } :=
  resolveFrom_of_find?_eq_none rfl

/-- An alias that leads to a mode at once. -/
theorem resolve_alias {mime : String} (next : Spec)
    (halias : bundled.mimes.find? (lookupName bundled.mimes (.name mime)) = some next)
    (hnext : bundled.mimes.find? (lookupName bundled.mimes next) = none) :
    bundled.resolve (.name mime) = .ok (configOf (lookupName bundled.mimes next) next) := by
  rw [resolve, resolveFrom_of_find?_eq_some halias (by simp), resolveFrom_of_find?_eq_none hnext]
  rfl

theorem resolve_plainText :
    bundled.resolve (.name plainTextMime) = .ok { name := nullModeName } :=
  resolve_alias (.name nullModeName) rfl rfl

theorem resolve_javaScript :
    bundled.resolve (.name "text/javascript") =
      .ok { name := "clike", options := .ofList [("dialect", .str "javascript")] } :=
  resolve_alias (CFamily.specOf "javascript") rfl rfl

theorem resolve_html : bundled.resolve (.name "text/html") = .ok { name := "htmlmixed" } :=
  resolve_alias (.name "htmlmixed") rfl rfl

/-! ## What a grammar asks for -/

def innerName (config : ModeConfig) : String := (config.str? "inner").getD "clike"

/-- Two providers give the same modes to the grammar of a configuration. Only two grammars ask for
modes: that of documents by two fixed names, that of diffs by the name in its option. -/
structure Agree (provide other : Provider) (options : ModeOptions) (config : ModeConfig) : Prop where
  markup : config.name = "htmlmixed" → provide options (.name "xml") = other options (.name "xml")
  script : config.name = "htmlmixed" →
    provide options (.name "text/javascript") = other options (.name "text/javascript")
  inner : config.name = "patch" →
    provide options (.name (innerName config)) = other options (.name (innerName config))

variable {provide other : Provider} {options : ModeOptions} {config : ModeConfig}

/-- Grammars look at no other modes than those they embed. -/
theorem grammar_congr {definition : Definition}
    (h : bundled.modes.find? config.name = some definition)
    (hagree : Agree provide other options config) :
    definition.grammar options config provide = definition.grammar options config other := by
  have hmem := Table.mem_entries_of_find? h
  rw [modes_bundled] at hmem
  simp only [List.mem_cons, Prod.mk.injEq, List.not_mem_nil, or_false] at hmem
  rcases hmem with ⟨_, rfl⟩ | ⟨hname, rfl⟩ | ⟨_, rfl⟩ | ⟨hname, rfl⟩ | ⟨_, rfl⟩ | ⟨_, rfl⟩
  · rfl
  · change HtmlGrammar.mode _ _ = HtmlGrammar.mode _ _
    rw [hagree.markup hname, hagree.script hname]
  · rfl
  · exact congrArg PatchGrammar.mode (hagree.inner hname)
  · rfl
  · rfl

/-- Providers that agree on the embedded modes give the same mode. -/
theorem instantiate?_congr (hagree : Agree provide other options config) :
    bundled.instantiate? provide options config = bundled.instantiate? other options config := by
  unfold instantiate?
  cases hfind : bundled.modes.find? config.name with
  | none => rfl
  | some definition =>
    rw [Option.map_some, Option.map_some, grammar_congr hfind hagree]

/-- A mode that embeds none is built alike whatever is provided. -/
theorem instantiate?_leaf (hhtml : config.name ≠ "htmlmixed") (hpatch : config.name ≠ "patch")
    (provide other : Provider) (options : ModeOptions) :
    bundled.instantiate? provide options config = bundled.instantiate? other options config :=
  instantiate?_congr ⟨fun h ↦ absurd h hhtml, fun h ↦ absurd h hhtml, fun h ↦ absurd h hpatch⟩

theorem plainText_bundled (provide other : Provider) (options : ModeOptions) :
    bundled.plainText provide options = bundled.plainText other options := by
  have hmode : bundled.instantiate? provide options { name := nullModeName } =
      bundled.instantiate? other options { name := nullModeName } :=
    instantiate?_leaf (by decide) (by decide) provide other options
  unfold plainText
  rw [resolve_plainText]
  dsimp only
  rw [hmode]

theorem modeOrPlain_congr {spec : Spec} (h : bundled.resolve spec = .ok config)
    (hmode : bundled.instantiate? provide options config =
      bundled.instantiate? other options config) :
    bundled.modeOrPlain provide options spec = bundled.modeOrPlain other options spec := by
  unfold modeOrPlain
  rw [h, plainText_bundled provide other options]
  dsimp only
  rw [hmode]

/-- A mode that embeds no other does not depend on the provider. -/
theorem modeOrPlain_leaf {spec : Spec} (h : bundled.resolve spec = .ok config)
    (hhtml : config.name ≠ "htmlmixed") (hpatch : config.name ≠ "patch")
    (provide other : Provider) (options : ModeOptions) :
    bundled.modeOrPlain provide options spec = bundled.modeOrPlain other options spec :=
  modeOrPlain_congr h (instantiate?_leaf hhtml hpatch provide other options)

/-- By name, all depths but the first two lead to the same mode. -/
theorem modeOrPlain_provider_name (depth other : Nat) (options : ModeOptions) (name : String) :
    bundled.modeOrPlain (bundled.provider (depth + 1)) options (.name name) =
      bundled.modeOrPlain (bundled.provider (other + 1)) options (.name name) := by
  cases hresolve : bundled.resolve (.name name) with
  | error fault =>
    unfold modeOrPlain
    rw [hresolve]
    exact plainText_bundled _ _ options
  | ok config =>
    have hinner : innerName config = "clike" := by
      rw [innerName, str?_inner_of_resolve_name hresolve]
      rfl
    have hagree : Agree (bundled.provider (depth + 1)) (bundled.provider (other + 1)) options config := by
      constructor
      · intro _
        exact modeOrPlain_leaf resolve_xml (by decide) (by decide) _ _ options
      · intro _
        exact modeOrPlain_leaf resolve_javaScript (by decide) (by decide) _ _ options
      · intro _
        rw [hinner]
        exact modeOrPlain_leaf resolve_clike (by decide) (by decide) _ _ options
    apply modeOrPlain_congr hresolve
    exact instantiate?_congr hagree

/-- The grammars of the registry are given the modes that the registry gives. -/
theorem provider_eq_getMode (options : ModeOptions) (name : String) :
    bundled.provider bundled.embeddingDepth options (.name name) =
      bundled.getMode options (.name name) := by
  have hdepth : bundled.embeddingDepth = 22 := by rfl
  rw [getMode, hdepth]
  exact modeOrPlain_provider_name 20 21 options name

/-- A specification that leads to a grammar gives the mode that the grammar builds, but for its
labels. -/
theorem getMode_of_find? {spec : Spec} (hspec : bundled.resolve spec = .ok config)
    {definition : Definition} (hfind : bundled.modes.find? config.name = some definition)
    (options : ModeOptions) :
    ∃ name helperType props, bundled.getMode options spec =
      { definition.grammar options config (bundled.provider bundled.embeddingDepth) with
        name, helperType, props } := by
  have hmode : ∃ mode,
      bundled.instantiate? (bundled.provider bundled.embeddingDepth) options config =
        some mode := by
    rw [instantiate?, hfind]
    exact ⟨_, rfl⟩
  obtain ⟨mode, hmode⟩ := hmode
  obtain ⟨_, hdefinition, name, helperType, props, hlabels⟩ :=
    instantiate?_eq hasBundled_bundled hmode
  obtain rfl := Option.some.inj (hfind.symm.trans hdefinition)
  refine ⟨name, helperType, props, ?_⟩
  rw [getMode, modeOrPlain, hspec]
  dsimp only
  rw [hmode, Option.getD_some, hlabels]

/-- A specification that leads to diffs gives the mode of diffs over the mode that its option
`inner` names. -/
theorem getMode_patch {spec : Spec} (hspec : bundled.resolve spec = .ok config)
    (hname : config.name = "patch") (options : ModeOptions) :
    ∃ name helperType props, bundled.getMode options spec =
      { PatchGrammar.mode (bundled.getMode options (.name (innerName config))) with
        name, helperType, props } := by
  have hfind : bundled.modes.find? config.name = some ⟨PatchGrammar.grammar, ["clike"]⟩ := by
    rw [hname]
    rfl
  rw [← provider_eq_getMode]
  exact getMode_of_find? hspec hfind options

/-- A specification that leads to documents gives the mode of documents over the modes of markup and
of scripts. -/
theorem getMode_html {spec : Spec} (hspec : bundled.resolve spec = .ok config)
    (hname : config.name = "htmlmixed") (options : ModeOptions) :
    ∃ name helperType props, bundled.getMode options spec =
      { HtmlGrammar.mode (bundled.getMode options (.name "xml"))
          (bundled.getMode options (.name "text/javascript")) with
        name, helperType, props } := by
  have hfind : bundled.modes.find? config.name =
      some ⟨HtmlGrammar.grammar, ["xml", "clike"]⟩ := by
    rw [hname]
    rfl
  rw [← provider_eq_getMode, ← provider_eq_getMode]
  exact getMode_of_find? hspec hfind options

/-- The mode named `xml` is the one that the grammar builds, but for its labels. -/
theorem getMode_xml (options : ModeOptions) :
    ∃ name helperType props, bundled.getMode options (.name "xml") =
      { XmlGrammar.mode options.indentUnit with name, helperType, props } := by
  have hfind : bundled.modes.find? "xml" =
      some ⟨fun options _ _ ↦ XmlGrammar.mode options.indentUnit, []⟩ := rfl
  exact getMode_of_find? resolve_xml hfind options

/-- Scripts are read with the mode of a C-family dialect. -/
theorem getMode_javaScript (options : ModeOptions) :
    ∃ dialect name helperType props, bundled.getMode options (.name "text/javascript") =
      { CFamily.ofDialect dialect options.indentUnit with name, helperType, props } := by
  have hfind : bundled.modes.find? "clike" = some ⟨CFamily.grammar, []⟩ := rfl
  exact ⟨_, getMode_of_find? resolve_javaScript hfind options⟩

end Registry

end LineLexer
