import LineLexer.Proofs.Mode.Extension
import LineLexer.Proofs.Registry.Resolution

/-!
# Plain text in place of a missing mode

A registry is asked for a mode in two ways. One may fail, the other never does, and where the first
finds a mode they give the same. Where it fails the second gives the mode of plain text, whether or
not the MIME type of plain text leads anywhere. What one question comes to is told once, whatever
modes the grammars are provided with, and all else is read off it.
-/

namespace LineLexer.Registry

variable {registry : Registry} {provide : Provider} {options : ModeOptions} {spec : Spec}
  {config : ModeConfig}

/-! ## Names -/

/-- The walk from a specification stops at the name. -/
def LeadsTo (mimes : Table Spec) (spec : Spec) (name : String) : Prop :=
  ∃ passed last, Walk mimes spec passed last ∧ Stops mimes last ∧ last.title = name

theorem LeadsTo.unique {mimes : Table Spec} {name other : String} (h : LeadsTo mimes spec name)
    (hother : LeadsTo mimes spec other) : name = other := by
  obtain ⟨_, _, hwalk, hstops, rfl⟩ := h
  obtain ⟨_, _, hwalk', hstops', rfl⟩ := hother
  rw [(hwalk.unique hstops hwalk' hstops').2]

/-- Aliases that lead to a name close no cycle. -/
theorem LeadsTo.not_closesCycle {mimes : Table Spec} {name : String} (h : LeadsTo mimes spec name)
    (chain : List String) : ¬ ClosesCycle mimes spec chain := by
  obtain ⟨_, _, hwalk, hstops, _⟩ := h
  exact fun hcycle ↦ hwalk.not_passesTwice hstops hcycle.passesTwice

/-- Aliases lead to a name or close a cycle, and resolution tells which. -/
theorem resolve_cases (registry : Registry) (spec : Spec) :
    (∃ config, registry.resolve spec = .ok config ∧ LeadsTo registry.mimes spec config.name) ∨
      ∃ chain, registry.resolve spec = .error (.aliasCycle chain) ∧
        ClosesCycle registry.mimes spec chain := by
  rcases resolveFrom_cases registry.mimes List.nodup_nil spec with
    ⟨config, passed, last, hok, hwalk, hstops, hname⟩ |
    ⟨passed, name, last, herror, hwalk, hpassed, hagain⟩
  · exact .inl ⟨config, hok, passed, last, hwalk, hstops, hname.symm⟩
  · exact .inr ⟨_, herror, passed, name, last, rfl, hpassed, hagain, hwalk⟩

theorem leadsTo_of_resolve (h : registry.resolve spec = .ok config) :
    LeadsTo registry.mimes spec config.name := by
  rcases resolve_cases registry spec with ⟨found, hfound, hleads⟩ | ⟨chain, herror, _⟩
  · cases h.symm.trans hfound
    exact hleads
  · cases h.symm.trans herror

theorem closesCycle_of_resolve {fault : ModeError} (h : registry.resolve spec = .error fault) :
    ∃ chain, fault = .aliasCycle chain ∧ ClosesCycle registry.mimes spec chain := by
  rcases resolve_cases registry spec with ⟨found, hfound, _⟩ | ⟨chain, herror, hcycle⟩
  · cases h.symm.trans hfound
  · cases h.symm.trans herror
    exact ⟨chain, rfl, hcycle⟩

/-! ## Modes of configurations -/

theorem name_instantiate? {mode : Mode}
    (h : registry.instantiate? provide options config = some mode) : mode.name = config.name := by
  rw [instantiate?, Option.map_eq_some_iff] at h
  obtain ⟨definition, _, rfl⟩ := h
  dsimp only
  rw [Mode.foldl_assignProp]

/-- There is no mode exactly if there is no grammar of the name. -/
theorem instantiate?_eq_none_iff :
    registry.instantiate? provide options config = none ↔
      registry.modes.find? config.name = none := by
  rw [instantiate?, Option.map_eq_none_iff]

/-! ## One question -/

/-- What the two ways to ask for a mode answer: a mode of a name that has a grammar, or else why
there is none and the mode of plain text. -/
inductive Answers (registry : Registry) (provide : Provider) (options : ModeOptions)
    (spec : Spec) : Except ModeError Mode → Mode → Prop where
  | found {config : ModeConfig} {mode : Mode} (hresolve : registry.resolve spec = .ok config)
      (hmode : registry.instantiate? provide options config = some mode) :
      Answers registry provide options spec (.ok mode) mode
  | unknown {config : ModeConfig} (hresolve : registry.resolve spec = .ok config)
      (hmode : registry.modes.find? config.name = none) :
      Answers registry provide options spec (.error (.unknownMode config.name))
        (registry.plainText provide options)
  | cycle {chain : List String} (hresolve : registry.resolve spec = .error (.aliasCycle chain)) :
      Answers registry provide options spec (.error (.aliasCycle chain))
        (registry.plainText provide options)

/-- The two ways to ask for a mode answer together, whatever the provider. -/
theorem answers (registry : Registry) (provide : Provider) (options : ModeOptions) (spec : Spec) :
    Answers registry provide options spec (registry.modeOrFault provide options spec)
      (registry.modeOrPlain provide options spec) := by
  unfold modeOrFault modeOrPlain
  cases hresolve : registry.resolve spec with
  | error fault =>
    obtain ⟨chain, rfl, _⟩ := closesCycle_of_resolve hresolve
    exact .cycle hresolve
  | ok config =>
    cases hmode : registry.instantiate? provide options config with
    | none =>
      dsimp only [Outcome.ok_bind]
      rw [hmode]
      exact .unknown hresolve (instantiate?_eq_none_iff.1 hmode)
    | some mode =>
      dsimp only [Outcome.ok_bind]
      rw [hmode]
      exact .found hresolve hmode

/-- Why a specification has no mode: the walk comes back to an alias, or stops at a name that has no
grammar. -/
inductive HasNoMode (registry : Registry) (spec : Spec) : ModeError → Prop where
  | cycle {chain : List String} (hcycle : ClosesCycle registry.mimes spec chain) :
      HasNoMode registry spec (.aliasCycle chain)
  | unknown {name : String} (hleads : LeadsTo registry.mimes spec name)
      (hmode : registry.modes.find? name = none) :
      HasNoMode registry spec (.unknownMode name)

namespace Answers

variable {answer : Except ModeError Mode} {mode : Mode} {fault : ModeError}

/-- Where the one way has a mode the other has the same. -/
theorem eq_of_ok (h : Answers registry provide options spec answer mode) {found : Mode}
    (hanswer : answer = .ok found) :
    mode = found ∧ ∃ config, registry.resolve spec = .ok config ∧ found.name = config.name ∧
      LeadsTo registry.mimes spec config.name := by
  cases h with
  | found hresolve hmode =>
    cases hanswer
    exact ⟨rfl, _, hresolve, name_instantiate? hmode, leadsTo_of_resolve hresolve⟩
  | unknown => cases hanswer
  | cycle => cases hanswer

/-- Where it has none the other falls back to plain text. -/
theorem eq_plainText (h : Answers registry provide options spec answer mode)
    (hanswer : answer = .error fault) : mode = registry.plainText provide options := by
  cases h with
  | found => cases hanswer
  | unknown => rfl
  | cycle => rfl

/-- The first way fails exactly where there is no mode, and says why. -/
theorem eq_error_iff (h : Answers registry provide options spec answer mode) :
    answer = .error fault ↔ HasNoMode registry spec fault := by
  cases h with
  | @found config _ hresolve hmode =>
    have hleads := leadsTo_of_resolve hresolve
    refine iff_of_false nofun fun hno ↦ ?_
    cases hno with
    | cycle hcycle => exact hleads.not_closesCycle _ hcycle
    | unknown hother hnone =>
      rw [hother.unique hleads, ← instantiate?_eq_none_iff, hmode] at hnone
      cases hnone
  | @unknown config hresolve hmode =>
    have hleads := leadsTo_of_resolve hresolve
    constructor
    · rintro ⟨⟩
      exact .unknown hleads hmode
    · intro hno
      cases hno with
      | cycle hcycle => exact absurd hcycle (hleads.not_closesCycle _)
      | unknown hother _ => rw [hother.unique hleads]
  | @cycle chain hresolve =>
    obtain ⟨_, ⟨⟩, hcycle⟩ := closesCycle_of_resolve hresolve
    constructor
    · rintro ⟨⟩
      exact .cycle hcycle
    · intro hno
      cases hno with
      | cycle hother => rw [hother.unique hcycle]
      | unknown hleads _ => exact absurd hcycle (hleads.not_closesCycle _)

end Answers

/-! ## Plain text -/

/-- To ask for plain text by its MIME type is to fall back on it. -/
theorem modeOrPlain_plainText (registry : Registry) (provide : Provider) (options : ModeOptions) :
    registry.modeOrPlain provide options (.name plainTextMime) =
      registry.plainText provide options := by
  unfold modeOrPlain plainText
  cases registry.resolve (.name plainTextMime) with
  | error _ => rfl
  | ok config =>
    dsimp only
    cases registry.instantiate? provide options config <;> rfl

theorem instantiate?_eq_plainText (hresolve : registry.resolve (.name plainTextMime) = .ok config)
    (hmode : registry.modes.find? config.name ≠ none) :
    registry.instantiate? provide options config = some (registry.plainText provide options) := by
  rw [plainText, hresolve]
  cases hbuilt : registry.instantiate? provide options config with
  | none => exact absurd (instantiate?_eq_none_iff.1 hbuilt) hmode
  | some mode =>
    dsimp only
    rw [hbuilt, Option.getD_some]

/-- Without a grammar for plain text the built-in one is taken. -/
theorem plainText_eq_builtIn {fault : ModeError}
    (h : HasNoMode registry (.name plainTextMime) fault) :
    registry.plainText provide options = builtInPlainText := by
  rw [← (answers registry provide options _).eq_error_iff] at h
  unfold plainText
  cases hresolve : registry.resolve (.name plainTextMime) with
  | error _ => rfl
  | ok config =>
    dsimp only
    cases hmode : registry.instantiate? provide options config with
    | none => rfl
    | some mode =>
      rw [modeOrFault, hresolve, Outcome.ok_bind, hmode] at h
      cases h

/-! ## The mode of a specification -/

/-- Where the question that may fail finds a mode, the other gives the same, under the name of the
configuration; it fails exactly if the aliases come back to one or lead to a name without a grammar,
and then the other gives the mode of plain text. That is what the MIME type of plain text leads to,
or the built-in mode if this has no mode either. -/
theorem getMode_falls_back (registry : Registry) (options : ModeOptions) (spec : Spec) :
    (∀ mode, registry.getMode? options spec = .ok mode →
      registry.getMode options spec = mode ∧
        ∃ config, registry.resolve spec = .ok config ∧ mode.name = config.name ∧
          LeadsTo registry.mimes spec config.name) ∧
    (∀ fault, registry.getMode? options spec = .error fault ↔ HasNoMode registry spec fault) ∧
    (∀ fault, registry.getMode? options spec = .error fault →
      registry.getMode options spec = registry.getMode options (.name plainTextMime)) ∧
    (∀ config, registry.resolve (.name plainTextMime) = .ok config →
      registry.modes.find? config.name ≠ none →
      registry.instantiate? (registry.provider registry.embeddingDepth) options config =
        some (registry.getMode options (.name plainTextMime))) ∧
    ∀ fault, HasNoMode registry (.name plainTextMime) fault →
      registry.getMode options (.name plainTextMime) = builtInPlainText := by
  have hplain : registry.getMode options (.name plainTextMime) =
      registry.plainText (registry.provider registry.embeddingDepth) options :=
    modeOrPlain_plainText registry _ options
  have hanswers : Answers registry (registry.provider registry.embeddingDepth) options spec
      (registry.getMode? options spec) (registry.getMode options spec) :=
    answers registry _ options spec
  rw [hplain]
  refine ⟨fun mode ↦ hanswers.eq_of_ok, fun fault ↦ hanswers.eq_error_iff,
    fun fault ↦ hanswers.eq_plainText, ?_, ?_⟩
  · exact fun config hresolve hmode ↦ instantiate?_eq_plainText hresolve hmode
  · exact fun fault hno ↦ plainText_eq_builtIn hno

/-- The MIME type of plain text leads to an alias that leads back to it. -/
def loopedPlainText : Registry :=
  (minimal.defineMime plainTextMime (.name "text/notes")).defineMime "text/notes"
    (.name plainTextMime)

/-- A name without a grammar, where plain text has no mode either. -/
theorem getMode_falls_back_loopedPlainText :
    HasNoMode loopedPlainText (.name plainTextMime)
        (.aliasCycle [plainTextMime, "text/notes", plainTextMime]) ∧
      loopedPlainText.getMode? {} (.name "prose") = .error (.unknownMode "prose") ∧
      loopedPlainText.getMode {} (.name "prose") = builtInPlainText := by
  have hplain : HasNoMode loopedPlainText (.name plainTextMime)
      (.aliasCycle [plainTextMime, "text/notes", plainTextMime]) :=
    .cycle ⟨[plainTextMime, "text/notes"], plainTextMime, _, rfl, by decide, by decide,
      .follow rfl (.follow rfl (.follow rfl (.here _)))⟩
  have hstops : Stops loopedPlainText.mimes (.name "prose") := by
    refine ⟨rfl, ?_⟩
    rintro _ ⟨⟩
    rw [← isCustomXmlMime_iff]
    decide
  have hprose : HasNoMode loopedPlainText (.name "prose") (.unknownMode "prose") :=
    .unknown ⟨[], _, .here _, hstops, rfl⟩ rfl
  obtain ⟨_, hfails, hfallback, _, hbuiltIn⟩ :=
    getMode_falls_back loopedPlainText {} (.name "prose")
  have hfault := (hfails _).2 hprose
  exact ⟨hplain, hfault, (hfallback _ hfault).trans (hbuiltIn _ hplain)⟩

end LineLexer.Registry
