import LineLexer.Proofs.Registry.Resolution
import LineLexer.Proofs.Table

/-!
# Which configuration wins

What resolution makes of the configurations that a walk meets. Whatever a configuration may set, be
it an option, a property of the mode or the helper type, is told by the first configuration on the
walk that sets it. Each such setting is resolved for itself: neither the name nor another setting
has a part in it, and it has no part in the name.
-/

namespace LineLexer

/-! ## Settings -/

/-- One thing that a configuration may set. -/
inductive Setting where
  | option (key : String)
  | property (key : String)
  | helperType

abbrev Setting.Value : Setting → Type
  | .option _ => Property
  | .property _ => Property
  | .helperType => String

namespace ModeConfig

/-- What the configuration sets a thing to, if it sets it. -/
def setting? (config : ModeConfig) : (setting : Setting) → Option setting.Value
  | .option key => config.options.find? key
  | .property key => config.modeProps.find? key
  | .helperType => config.helperType

/-- What a caller sets wins, and through what it does not set the configuration below shows. -/
theorem setting?_overlay (base caller : ModeConfig) (setting : Setting) :
    (base.overlay caller).setting? setting =
      (caller.setting? setting).or (base.setting? setting) := by
  cases setting with
  | option key => exact Table.find?_overlay base.options caller.options key
  | property key => exact Table.find?_overlay base.modeProps caller.modeProps key
  | helperType => rfl

theorem setting?_bare (name : String) (setting : Setting) :
    ({ name } : ModeConfig).setting? setting = none := by
  cases setting <;> rfl

end ModeConfig

namespace Spec

/-- The configuration that a specification brings along; a bare name brings none. -/
def config? : Spec → Option ModeConfig
  | .name _ => none
  | .config entry => some entry

/-- What the specification sets a thing to, if it sets it. -/
def setting? (spec : Spec) (setting : Setting) : Option setting.Value :=
  spec.config?.bind fun config ↦ config.setting? setting

/-- The specifications have the same name and set a thing alike, whatever else they set. -/
inductive AgreesOn (setting : Setting) : Spec → Spec → Prop where
  | name (title : String) : AgreesOn setting (.name title) (.name title)
  | config {entry other : ModeConfig} (hname : entry.name = other.name)
      (hsetting : entry.setting? setting = other.setting? setting) :
      AgreesOn setting (.config entry) (.config other)

end Spec

namespace Registry

variable {mimes others : Table Spec} {seen passed : List String} {spec other last : Spec}
  {config : ModeConfig}

/-! ## One layer -/

variable {setting : Setting}

theorem setting?_configOf (name : String) (spec : Spec) (setting : Setting) :
    (configOf name spec).setting? setting = spec.setting? setting := by
  cases spec with
  | name _ => exact ModeConfig.setting?_bare name setting
  | config _ => rfl

/-- A configuration laid over another one comes first. -/
theorem setting?_overlaySpec (base : ModeConfig) (spec : Spec) (setting : Setting) :
    (overlaySpec base spec).setting? setting =
      (spec.setting? setting).or (base.setting? setting) := by
  cases spec with
  | name _ => rfl
  | config caller => exact ModeConfig.setting?_overlay base caller setting

/-! ## Configurations on a walk -/

/-- The configurations that a walk meets, in their order: those of the specification where it begins
and of the specifications that the aliases stand for. -/
def configsMet (mimes : Table Spec) (spec : Spec) (passed : List String) : List ModeConfig :=
  (spec :: passed.filterMap mimes.find?).filterMap Spec.config?

/-- What the first of the configurations met that sets a thing sets it to. -/
def nearest? (mimes : Table Spec) (spec : Spec) (passed : List String) (setting : Setting) :
    Option setting.Value :=
  (configsMet mimes spec passed).findSome? fun config ↦ config.setting? setting

theorem configsMet_cons {name : String} {next : Spec} (hfind : mimes.find? name = some next)
    (spec : Spec) (passed : List String) :
    configsMet mimes spec (name :: passed) =
      spec.config?.toList ++ configsMet mimes next passed := by
  unfold configsMet
  rw [List.filterMap_cons_some hfind, List.filterMap_cons]
  cases spec.config? <;> rfl

theorem findSome?_config? (spec : Spec) (setting : Setting) :
    (spec.config?.toList.findSome? fun config ↦ config.setting? setting) =
      spec.setting? setting := by
  cases spec with
  | name _ => rfl
  | config entry => simp [Spec.config?, Spec.setting?]

theorem nearest?_nil (mimes : Table Spec) (spec : Spec) (setting : Setting) :
    nearest? mimes spec [] setting = spec.setting? setting := by
  have hmet : configsMet mimes spec [] = spec.config?.toList := by cases spec <;> rfl
  rw [nearest?, hmet, findSome?_config?]

/-- The specification at hand comes first, and what its alias stands for comes after it. -/
theorem nearest?_cons {name : String} {next : Spec} (hfind : mimes.find? name = some next)
    (spec : Spec) (passed : List String) (setting : Setting) :
    nearest? mimes spec (name :: passed) setting =
      (spec.setting? setting).or (nearest? mimes next passed setting) := by
  rw [nearest?, configsMet_cons hfind, List.findSome?_append, findSome?_config?, nearest?]

/-- What resolution makes of a walk that stops: it takes the name where the walk stops, and sets
each thing as the nearest configuration on the walk does. -/
structure NearestWins (mimes : Table Spec) (spec : Spec) (passed : List String) (last : Spec)
    (config : ModeConfig) : Prop where
  name : config.name = last.title
  setting : ∀ setting, config.setting? setting = nearest? mimes spec passed setting

/-- What resolves has been walked, and the nearest settings have won. -/
theorem exists_walk_of_resolveFrom {seen : List String} {spec : Spec} {config : ModeConfig}
    (h : resolveFrom mimes seen spec = .ok config) :
    ∃ passed last, Walk mimes spec passed last ∧ Stops mimes last ∧
      NearestWins mimes spec passed last config := by
  fun_induction resolveFrom mimes seen spec generalizing config with
  | case1 seen spec name =>
    rename_i hfind
    obtain rfl := Except.ok.inj h
    obtain ⟨last, hwalk, hstops, hname⟩ := exists_stop hfind
    refine ⟨[], last, hwalk, hstops, hname, fun setting ↦ ?_⟩
    rw [setting?_configOf, nearest?_nil]
  | case2 => cases h
  | case3 seen spec name next hfind _ =>
    rename_i ih
    obtain ⟨base, hbase, rfl⟩ := Outcome.map_eq_ok_iff.1 h
    obtain ⟨passed, last, hwalk, hstops, hnearest⟩ := ih hbase
    have hname : (overlaySpec base spec).name = last.title :=
      (name_overlaySpec base spec).trans hnearest.name
    refine ⟨name :: passed, last, .of_lookupName hfind hwalk, hstops, hname, fun setting ↦ ?_⟩
    rw [setting?_overlaySpec, hnearest.setting, nearest?_cons hfind]

/-! ## One setting alone -/

/-- The aliases of two tables lead on to specifications that agree on a setting. -/
def AliasesAgreeOn (setting : Setting) (mimes others : Table Spec) : Prop :=
  ∀ mime, Option.Rel (Spec.AgreesOn setting) (mimes.find? mime) (others.find? mime)

/-- What resolution comes to in the name and in one setting. -/
def outcomeOn (setting : Setting) (outcome : Except ModeError ModeConfig) :
    Except ModeError (String × Option setting.Value) :=
  outcome.map fun config ↦ (config.name, config.setting? setting)

theorem setting?_eq_of_agreesOn (h : spec.AgreesOn setting other) :
    spec.setting? setting = other.setting? setting := by
  cases h with
  | name => rfl
  | config _ hsetting => exact hsetting

theorem name_configOf_eq_of_agreesOn (h : spec.AgreesOn setting other) (name : String) :
    (configOf name spec).name = (configOf name other).name := by
  cases h with
  | name => rfl
  | config hname _ => exact hname

namespace AliasesAgreeOn

theorem find?_eq_none (h : AliasesAgreeOn setting mimes others) {mime : String}
    (hfind : mimes.find? mime = none) : others.find? mime = none := by
  have hmime := h mime
  rw [hfind] at hmime
  generalize others.find? mime = found at hmime
  cases hmime
  rfl

theorem exists_find? (h : AliasesAgreeOn setting mimes others) {mime : String} {next : Spec}
    (hfind : mimes.find? mime = some next) :
    ∃ found, others.find? mime = some found ∧ next.AgreesOn setting found := by
  have hmime := h mime
  rw [hfind] at hmime
  generalize others.find? mime = found at hmime
  cases hmime with
  | some hagrees => exact ⟨_, rfl, hagrees⟩

end AliasesAgreeOn

theorem lookupName_eq_of_agreesOn (hmimes : AliasesAgreeOn setting mimes others)
    (h : spec.AgreesOn setting other) : lookupName mimes spec = lookupName others other := by
  cases h with
  | name title =>
    have hcontains : mimes.contains title = others.contains title := by
      unfold Table.contains
      cases hfind : mimes.find? title with
      | none => rw [hmimes.find?_eq_none hfind]
      | some next =>
        obtain ⟨found, hfound, _⟩ := hmimes.exists_find? hfind
        rw [hfound]
        rfl
    rw [lookupName, lookupName, hcontains]
  | config hname _ => exact hname

theorem outcomeOn_overlaySpec (spec : Spec) (outcome : Except ModeError ModeConfig) :
    outcomeOn setting (outcome.map fun base ↦ overlaySpec base spec) =
      (outcomeOn setting outcome).map fun (name, found) ↦
        (name, (spec.setting? setting).or found) := by
  cases outcome with
  | error _ => rfl
  | ok base =>
    change Except.ok ((overlaySpec base spec).name, (overlaySpec base spec).setting? setting) = _
    rw [name_overlaySpec, setting?_overlaySpec]
    rfl

/-- Where names and a setting agree, resolution comes to the same in both, and fails alike. -/
theorem outcomeOn_resolveFrom (hagree : AliasesAgreeOn setting mimes others) {seen : List String}
    {spec other : Spec} (h : spec.AgreesOn setting other) :
    outcomeOn setting (resolveFrom mimes seen spec) =
      outcomeOn setting (resolveFrom others seen other) := by
  fun_induction resolveFrom mimes seen spec generalizing other with
  | case1 seen spec name =>
    rename_i hfind
    have hname : name = lookupName others other := lookupName_eq_of_agreesOn hagree h
    have hnone : others.find? (lookupName others other) = none := by
      rw [← hname]
      exact hagree.find?_eq_none hfind
    rw [resolveFrom_of_find?_eq_none hnone, ← hname]
    change Except.ok (_, _) = Except.ok (_, _)
    rw [name_configOf_eq_of_agreesOn h, setting?_configOf, setting?_configOf,
      setting?_eq_of_agreesOn h]
  | case2 seen spec name next hfind =>
    rename_i hmem
    have hname : name = lookupName others other := lookupName_eq_of_agreesOn hagree h
    obtain ⟨found, hfound, _⟩ := hagree.exists_find? hfind
    rw [hname] at hfound hmem ⊢
    rw [resolveFrom_of_mem hfound hmem]
  | case3 seen spec name next hfind hnew =>
    rename_i ih
    have hname : name = lookupName others other := lookupName_eq_of_agreesOn hagree h
    obtain ⟨found, hfound, hnext⟩ := hagree.exists_find? hfind
    have hrest := ih hnext
    rw [hname] at hfound hnew hrest ⊢
    rw [resolveFrom_of_find?_eq_some hfound hnew, outcomeOn_overlaySpec,
      outcomeOn_overlaySpec, setting?_eq_of_agreesOn h, hrest]

/-! ## The nearest configuration wins -/

/-- A specification that resolves is where a walk begins that stops. The configuration has the name
where it stops, and what it sets is set by the first configuration on the walk that sets it, or by
none if there is no such. Where other aliases lead through the same names and agree on one setting,
the name and that setting come out the same, whatever else is set there. -/
theorem resolve_nearest_wins {registry : Registry} {spec : Spec} {config : ModeConfig}
    (h : registry.resolve spec = .ok config) :
    (∃ passed last, Walk registry.mimes spec passed last ∧ Stops registry.mimes last) ∧
    (∀ passed last, Walk registry.mimes spec passed last → Stops registry.mimes last →
      NearestWins registry.mimes spec passed last config) ∧
    ∀ setting (others : Registry) (other : Spec),
      AliasesAgreeOn setting registry.mimes others.mimes → spec.AgreesOn setting other →
      ∃ found, others.resolve other = .ok found ∧ found.name = config.name ∧
        found.setting? setting = config.setting? setting := by
  obtain ⟨passed, last, hwalk, hstops, hnearest⟩ := exists_walk_of_resolveFrom h
  refine ⟨⟨passed, last, hwalk, hstops⟩, ?_, ?_⟩
  · intro passed' last' hwalk' hstops'
    obtain ⟨rfl, rfl⟩ := hwalk.unique hstops hwalk' hstops'
    exact hnearest
  · intro setting others other hagree hspecs
    have houtcome : outcomeOn setting (registry.resolve spec) =
        outcomeOn setting (others.resolve other) :=
      outcomeOn_resolveFrom hagree hspecs
    rw [h] at houtcome
    obtain ⟨found, hfound, hsame⟩ := Outcome.map_eq_ok_iff.1 houtcome.symm
    obtain ⟨hname, hsetting⟩ := Prod.mk.inj hsame
    exact ⟨found, hfound, hname, hsetting⟩

/-- Two configurations and a bare name, each under an alias that leads on to the next. -/
def threeLayers : Registry :=
  ((minimal.defineMime "text/x-notes" (.config
      { name := "text/x-drafts", options := .ofList [("case", .str "lower")] })).defineMime
    "text/x-drafts" (.name "text/x-base")).defineMime "text/x-base" (.config
      { name := "null"
        helperType := some "prose"
        modeProps := .ofList [("fold", .str "indent")]
        options := .ofList [("case", .str "upper"), ("wrap", .bool true)] })

/-- The caller's property wins over that of the last layer, an option of the first layer over the
same one of the last, and what only the last layer sets shows through. -/
theorem resolve_nearest_wins_threeLayers :
    ∃ config, threeLayers.resolve (.config
        { name := "text/x-notes", modeProps := .ofList [("fold", .str "brace")] }) = .ok config ∧
      config.name = "null" ∧ config.setting? .helperType = some "prose" ∧
      config.setting? (.property "fold") = some (.str "brace") ∧
      config.setting? (.option "case") = some (.str "lower") ∧
      config.setting? (.option "wrap") = some (.bool true) ∧
      config.setting? (.option "fold") = none := by
  have hresolve : ∃ config, threeLayers.resolve (.config
      { name := "text/x-notes", modeProps := .ofList [("fold", .str "brace")] }) = .ok config := by
    rw [resolve, resolveFrom_of_find?_eq_some rfl (by decide),
      resolveFrom_of_find?_eq_some rfl (by decide), resolveFrom_of_find?_eq_some rfl (by decide),
      resolveFrom_of_find?_eq_none rfl]
    exact ⟨_, rfl⟩
  obtain ⟨config, hconfig⟩ := hresolve
  obtain ⟨_, hwins, _⟩ := resolve_nearest_wins hconfig
  have hwalk : Walk threeLayers.mimes (.config
        { name := "text/x-notes", modeProps := .ofList [("fold", .str "brace")] })
      ["text/x-notes", "text/x-drafts", "text/x-base"] _ :=
    .follow rfl (.follow rfl (.follow rfl (.here _)))
  obtain ⟨hname, hsetting⟩ := hwins _ _ hwalk ⟨rfl, nofun⟩
  refine ⟨config, hconfig, hname, ?_, ?_, ?_, ?_, ?_⟩
  all_goals
    rw [hsetting]
    rfl

end Registry

end LineLexer
