import LineLexer.Proofs.Mode.Extension
import LineLexer.Proofs.Registry.Resolution
import LineLexer.Proofs.Table
import LineLexer.Registry.Sample

/-!
# The layers of a mode

What a registry gives for a specification, told by the calls that filled the registry. The grammar
registered last under the resolved name builds the mode. In each of its slots the last extension
that sets the slot replaces what the grammar put there, and only that is shadowed: extensions are
merged before they are applied, so none ever replaces another. The properties of the configuration
come on top and shadow nothing.
-/

namespace LineLexer

/-! ## Calls -/

/-- A call that changes what a registry offers. -/
inductive Registration where
  | defineMode (name : String) (definition : Definition)
  | defineMime (mime : String) (spec : Spec)
  | extendMode (name : String) (extension : Extension)

namespace Registration

def apply (registry : Registry) : Registration → Registry
  | .defineMode name definition => registry.defineMode name definition
  | .defineMime mime spec => registry.defineMime mime spec
  | .extendMode name extension => registry.extendMode name extension

def definition? (name : String) : Registration → Option Definition
  | .defineMode other definition => if name = other then some definition else none
  | _ => none

def extension? (name : String) : Registration → Option Extension
  | .extendMode other extension => if name = other then some extension else none
  | _ => none

end Registration

/-- The last answer to a question that is put to each of the calls. -/
def lastOf {β : Type} (calls : List Registration) (pick : Registration → Option β) : Option β :=
  (calls.filterMap pick).getLast?

/-- What the last extension of a name that sets a slot puts there. -/
def lastSetting {β : Type} (calls : List Registration) (name : String)
    (pick : Extension → Option β) : Option β :=
  lastOf calls fun call ↦ (call.extension? name).bind pick

/-- The first registration answers where no later one does. -/
theorem lastOf_cons {β : Type} (call : Registration) (calls : List Registration)
    (pick : Registration → Option β) :
    lastOf (call :: calls) pick = (lastOf calls pick).or (pick call) := by
  unfold lastOf
  cases hpick : pick call with
  | none => simp [hpick]
  | some found =>
    simp only [List.filterMap_cons, hpick, List.getLast?_cons]
    cases (calls.filterMap pick).getLast? <;> rfl

namespace Registry

def register (registry : Registry) (calls : List Registration) : Registry :=
  calls.foldl Registration.apply registry

/-- A registry without extensions. -/
def Plain (registry : Registry) : Prop := registry.extensions = {}

/-- What all extensions of a name come to. -/
def extensionOf (registry : Registry) (name : String) : Extension :=
  (registry.extensions.find? name).getD {}

variable {start : Registry} {calls : List Registration}

/-- The last definition of a name is the one in force. -/
theorem find?_modes_register (start : Registry) (calls : List Registration) (name : String) :
    (start.register calls).modes.find? name =
      (lastOf calls (Registration.definition? name)).or (start.modes.find? name) := by
  induction calls generalizing start with
  | nil => rfl
  | cons call calls ih =>
    have hcall : (call.apply start).modes.find? name =
        (call.definition? name).or (start.modes.find? name) := by
      cases call with
      | defineMode other definition =>
        simp only [Registration.apply, defineMode, Table.find?_insert, Registration.definition?]
        split <;> rfl
      | defineMime => rfl
      | extendMode => rfl
    rw [register, List.foldl_cons, ← register, ih, hcall, lastOf_cons, Option.or_assoc]

/-! ## Merged extensions -/

/-- Of two merged extensions the later one that sets the slot sets it. -/
structure Merges {β : Type} (pick : Extension → Option β) : Prop where
  empty : pick {} = none
  merge : ∀ earlier later : Extension,
    pick (earlier.merge later) = (pick later).or (pick earlier)

theorem merges_prop (key : String) : Merges fun extension ↦ extension.props.find? key where
  empty := rfl
  merge earlier later := Table.find?_overlay earlier.props later.props key

/-- An extension is merged into those of its name, and changes no other. -/
theorem extensionOf_extendMode (registry : Registry) (name other : String)
    (extension : Extension) :
    (registry.extendMode other extension).extensionOf name =
      if name = other then (registry.extensionOf other).merge extension
      else registry.extensionOf name := by
  simp only [extensionOf, extendMode, Table.find?_insert]
  split <;> rfl

theorem pick_extensionOf_apply {β : Type} {pick : Extension → Option β} (hpick : Merges pick)
    (registry : Registry) (call : Registration) (name : String) :
    pick ((call.apply registry).extensionOf name) =
      ((call.extension? name).bind pick).or (pick (registry.extensionOf name)) := by
  cases call with
  | defineMode => rfl
  | defineMime => rfl
  | extendMode other extension =>
    simp only [Registration.apply, extensionOf_extendMode, Registration.extension?]
    split
    · rename_i hname
      rw [hname]
      exact hpick.merge _ _
    · rfl

/-- After any registrations the last extension that sets a slot decides it. -/
theorem pick_extensionOf_register {β : Type} {pick : Extension → Option β} (hpick : Merges pick)
    (start : Registry) (calls : List Registration) (name : String) :
    pick ((start.register calls).extensionOf name) =
      (lastSetting calls name pick).or (pick (start.extensionOf name)) := by
  induction calls generalizing start with
  | nil => rfl
  | cons call calls ih =>
    rw [register, List.foldl_cons, ← register, ih, pick_extensionOf_apply hpick, lastSetting, lastSetting, lastOf_cons, Option.or_assoc]

/-- In every slot the extensions come to what the last one puts there. -/
theorem Plain.lastSetting_eq (hstart : start.Plain) (calls : List Registration)
    (name : String) {β : Type} {pick : Extension → Option β} (hpick : Merges pick) :
    pick ((start.register calls).extensionOf name) = lastSetting calls name pick := by
  have hempty : start.extensionOf name = {} := by
    rw [extensionOf, hstart]
    rfl
  rw [pick_extensionOf_register hpick start calls, hempty, hpick.empty, Option.or_none]

/-! ## The mode -/

/-- A mode that comes from the one a grammar built: in each slot the last extension that sets it is
laid over the grammar's value, and the properties of the configuration are assigned on top. -/
structure Composed (calls : List Registration) (config : ModeConfig) (built mode : Mode) :
    Prop where
  name : mode.name = config.name
  token : Layered (some mode.token) (some built.token)
    ((lastSetting calls config.name Extension.token).map fun op ↦ op built.readToken)
  startState : Layered mode.startState built.startState
    (lastSetting calls config.name Extension.startState)
  copyState : Layered mode.copyState built.copyState
    (lastSetting calls config.name Extension.copyState)
  inner : Layered mode.inner built.inner (lastSetting calls config.name Extension.inner)
  indent : Layered mode.indent built.indent
    ((lastSetting calls config.name Extension.indent).map fun op ↦ op built.suggestIndent)
  blankLine : Layered mode.blankLine built.blankLine
    (lastSetting calls config.name Extension.blankLine)
  readShadowedToken : mode.readShadowedToken = built.readToken
  prop : ∀ key, mode.prop? key =
    (config.modeProps.find? key).or
      ((lastSetting calls config.name (·.props.find? key)).or (built.prop? key))
  shadowedProp : ∀ key, mode.shadowedProp? key =
    if (lastSetting calls config.name (·.props.find? key)).isSome then built.prop? key else none

/-- The mode of a configuration: the grammar's, extended, stamped and assigned its properties. -/
theorem instantiate?_of_find? {registry : Registry} {config : ModeConfig} {definition : Definition}
    (h : registry.modes.find? config.name = some definition) (provide : Provider)
    (options : ModeOptions) :
    registry.instantiate? provide options config = some
      (let extended := (definition.grammar options config provide).extend
        (registry.extensionOf config.name)
      config.modeProps.entries.foldl (fun mode entry ↦ mode.assignProp entry.1 entry.2)
        { extended with
          name := config.name
          helperType := config.helperType.or extended.helperType }) := by
  rw [instantiate?, h, Option.map_some, extensionOf]
  cases registry.extensions.find? config.name with
  | none => rw [Option.getD_none, Mode.extend_empty]
  | some extension => rfl

/-- Extensions come over the grammar's own operations, and properties of the configuration come over
both. -/
theorem composed_assignProps (hstart : start.Plain) (calls : List Registration)
    (config : ModeConfig) {built : Mode} (hbuilt : built.Unshadowed) (helperType : Option String) :
    Composed calls config built
      (config.modeProps.entries.foldl (fun mode entry ↦ mode.assignProp entry.1 entry.2)
        { built.extend ((start.register calls).extensionOf config.name) with
          name := config.name
          helperType }) := by
  have hset {β : Type} (pick : Extension → Option β) (hpick : Merges pick) :=
    (hstart.lastSetting_eq calls config.name hpick).symm
  generalize (start.register calls).extensionOf config.name = extension at hset
  have htoken : Layered (some (built.extend extension).token) (some built.token)
      ((lastSetting calls config.name Extension.token).map fun op ↦ op built.readToken) := by
    rw [Mode.token_extend, hset Extension.token ⟨rfl, fun _ _ ↦ rfl⟩]
    have hslot : (some built.token).bind Overridable.shadowed = none := hbuilt.token
    exact layered_overrideSlot hslot _
  have hprop (key : String) :
      Layered ((built.extend extension).props.find? key) (built.props.find? key)
        (lastSetting calls config.name (·.props.find? key)) := by
    rw [Mode.find?_props_extend, hset _ (merges_prop key)]
    exact layered_overrideSlot (hbuilt.props key) _
  constructor
  case prop =>
    intro key
    rw [Mode.prop?_foldl_assignProp]
    exact congrArg _ (hprop key).current
  case shadowedProp =>
    intro key
    rw [Mode.shadowedProp?_foldl_assignProp]
    exact (hprop key).shadowed
  all_goals rw [Mode.foldl_assignProp]
  case token => exact htoken
  case readShadowedToken => exact htoken.getD_shadowed
  case startState =>
    rw [Mode.extend_eq, hset Extension.startState ⟨rfl, fun _ _ ↦ rfl⟩]
    exact layered_overrideSlot hbuilt.startState _
  case copyState =>
    rw [Mode.extend_eq, hset Extension.copyState ⟨rfl, fun _ _ ↦ rfl⟩]
    exact layered_overrideSlot hbuilt.copyState _
  case inner =>
    rw [Mode.extend_eq, hset Extension.inner ⟨rfl, fun _ _ ↦ rfl⟩]
    exact layered_overrideSlot hbuilt.inner _
  case indent =>
    rw [Mode.extend_eq, hset Extension.indent ⟨rfl, fun _ _ ↦ rfl⟩]
    exact layered_overrideSlot hbuilt.indent _
  case blankLine =>
    rw [Mode.extend_eq, hset Extension.blankLine ⟨rfl, fun _ _ ↦ rfl⟩]
    exact layered_overrideSlot hbuilt.blankLine _

/-- The mode of a specification is composed of what the last grammar of its name builds, the last
extensions and the properties of its configuration, however the calls are mixed. -/
theorem getMode_composed (hstart : start.Plain) {spec : Spec} {config : ModeConfig}
    (hconfig : (start.register calls).resolve spec = .ok config) {definition : Definition}
    (hdefinition : (lastOf calls (Registration.definition? config.name)).or
      (start.modes.find? config.name) = some definition)
    (options : ModeOptions)
    (hbuilt : Built (definition.grammar options config
      ((start.register calls).provider (start.register calls).embeddingDepth))) :
    Composed calls config
      (definition.grammar options config
        ((start.register calls).provider (start.register calls).embeddingDepth))
      ((start.register calls).getMode options spec) := by
  have hfind : (start.register calls).modes.find? config.name = some definition := by
    rw [find?_modes_register, hdefinition]
  rw [getMode, modeOrPlain, hconfig]
  simp only [instantiate?_of_find? hfind, Option.getD_some]
  exact composed_assignProps hstart calls config hbuilt.unshadowed _

theorem plain_minimal : minimal.Plain := rfl

/-- A history in which a grammar is registered between two extensions of its name, and again after
them. -/
def relabelledWords : List Registration :=
  [.extendMode "words"
      { token := some (Sample.relabel .keyword), props := .ofList [("lineComment", .str "//")] },
    .defineMode "words" ⟨fun _ _ _ ↦ Sample.bare, []⟩,
    .defineMime "text/x-words"
      (.config { name := "words", modeProps := .ofList [("lineComment", .str "--")] }),
    .extendMode "words" { token := some (Sample.relabel .string) },
    .defineMode "words" ⟨Sample.wordsGrammar, []⟩]

theorem getMode_composed_relabelledWords :
    let built := Sample.words .identifier
    let mode := (minimal.register relabelledWords).getMode {} (.name "text/x-words")
    mode.readToken = Sample.relabel .string built.readToken ∧
      mode.readShadowedToken = built.readToken ∧
      mode.prop? "lineComment" = some (.str "--") ∧
      mode.shadowedProp? "lineComment" = some (.str "#") := by
  intro built mode
  have hconfig : (minimal.register relabelledWords).resolve (.name "text/x-words") =
      .ok { name := "words", modeProps := .ofList [("lineComment", .str "--")] } := by
    rw [resolve, resolveFrom_of_find?_eq_some rfl (by simp), resolveFrom_of_find?_eq_none rfl]
    rfl
  have hbuilt : Built built := .withProp (.ofToken _) _ _
  have h : Composed relabelledWords _ built mode :=
    getMode_composed plain_minimal hconfig rfl {} hbuilt
  refine ⟨?_, h.readShadowedToken, ?_, ?_⟩
  · exact Option.some.inj h.token.current
  · rw [h.prop]
    rfl
  · rw [h.shadowedProp]
    rfl

end Registry

end LineLexer
