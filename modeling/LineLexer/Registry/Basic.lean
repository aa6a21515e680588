import LineLexer.Error
import LineLexer.Mode.Extension
import LineLexer.Registry.Helper
import LineLexer.Registry.Hook

/-!
# The registry of modes

Grammars are registered by mode name, and MIME types as aliases of mode specifications. A
specification is resolved by following aliases to a name that is none; what is met on the way is
laid over the result, nearest the caller on top. The grammar of the resolved name then builds the
mode, the extensions of that name are applied, and the mode is stamped with its name.
-/

namespace LineLexer

/-- Gives the mode for a specification to a grammar that embeds it. -/
abbrev Provider := ModeOptions → Spec → Mode

/-- Builds a mode from the host's options and a resolved configuration. -/
abbrev Grammar := ModeOptions → ModeConfig → Provider → Mode

structure Definition where
  grammar : Grammar
  dependencies : List String := []

structure Registry where
  modes : Table Definition := {}
  mimes : Table Spec := {}
  extensions : Table Extension := {}
  defaultMode : Option String := none
  helpers : HelperRegistry := {}
  hooks : HookRegistry := {}

def nullModeName : String := "null"

def plainTextMime : String := "text/plain"

def xmlMime : String := "application/xml"

/-- The parts of a MIME type that may end in `+xml`. -/
def isMimePart (part : List Char) : Bool :=
  !part.isEmpty && part.all fun c ↦ c.isAlphanum || c == '_' || c == '-'

/-- A MIME type `kind/base+xml`. -/
def isCustomXmlMime (mime : String) : Bool :=
  let text := mime.toList
  let kind := text.takeWhile (· != '/')
  match text.dropWhile (· != '/') with
  | [] => false
  | _ :: subtype =>
    let base := subtype.take (subtype.length - 4)
    subtype.drop (subtype.length - 4) == ['+', 'x', 'm', 'l'] && isMimePart kind && isMimePart base

namespace Registry

/-! ## Registration -/

/-- Registers a grammar. The first one under a name other than that of plain text becomes the
default. -/
def defineMode (registry : Registry) (name : String) (definition : Definition) : Registry :=
  { registry with
    modes := registry.modes.insert name definition
    defaultMode :=
      if name = nullModeName then registry.defaultMode else registry.defaultMode.or (some name) }

def defineMime (registry : Registry) (mime : String) (spec : Spec) : Registry :=
  { registry with mimes := registry.mimes.insert mime spec }

/-- Adds an extension of a mode; it wins over those before it. -/
def extendMode (registry : Registry) (name : String) (extension : Extension) : Registry :=
  { registry with
    extensions := registry.extensions.insert name
      (((registry.extensions.find? name).getD {}).merge extension) }

def setDefaultMode (registry : Registry) (name : String) : Registry :=
  { registry with defaultMode := some name }

def registerHelper (registry : Registry) (category name : String) (value : HelperValue) :
    Registry :=
  { registry with helpers := registry.helpers.register category name value }

/-- Plain text alone. -/
def minimal : Registry :=
  (({} : Registry).defineMode nullModeName ⟨fun _ _ _ ↦ Mode.plainText, []⟩).defineMime
    plainTextMime (.name nullModeName)

/-! ## Resolution -/

/-- The name under which a specification is looked up. A name of the form `kind/base+xml` that is
no alias stands for the MIME type of XML. -/
def lookupName (mimes : Table Spec) : Spec → String
  | .name name =>
    if !mimes.contains name && isCustomXmlMime name then xmlMime else name
  | .config config => config.name

/-- The configuration a specification stands for when its name is no alias. -/
def configOf (name : String) : Spec → ModeConfig
  | .name _ => { name }
  | .config config => config

/-- Lays what a specification sets over the configuration its alias leads to. -/
def overlaySpec (base : ModeConfig) : Spec → ModeConfig
  | .name _ => base
  | .config config => base.overlay config

/-- The aliases not yet passed. -/
def unseen (mimes : Table Spec) (seen : List String) : List String :=
  mimes.keys.filter fun mime ↦ !seen.contains mime

theorem length_filter_lt {keys : List String} {p q : String → Bool} (key : String)
    (hle : ∀ k, q k = true → p k = true) (hmem : key ∈ keys) (hp : p key = true)
    (hq : q key = false) : (keys.filter q).length < (keys.filter p).length := by
  induction keys with
  | nil => simp at hmem
  | cons head rest ih =>
    have hrest : (rest.filter q).length ≤ (rest.filter p).length := by
      rw [← List.countP_eq_length_filter, ← List.countP_eq_length_filter]
      exact List.countP_mono_left fun k _ ↦ hle k
    rcases List.mem_cons.1 hmem with rfl | hin
    · simp only [List.filter_cons, hp, hq, if_true, Bool.false_eq_true, if_false, List.length_cons]
      omega
    · have hlt := ih hin
      by_cases hqh : q head = true
      · simp [hqh, hle head hqh]
        omega
      · by_cases hph : p head = true
        · simp [hqh, hph]
          omega
        · simp [hqh, hph]
          omega

theorem length_unseen_lt {mimes : Table Spec} {seen : List String} {name : String} {next : Spec}
    (hfind : mimes.find? name = some next) (hnew : name ∉ seen) :
    (unseen mimes (seen ++ [name])).length < (unseen mimes seen).length := by
  refine length_filter_lt name ?_ (Table.mem_keys_of_find? hfind) ?_ ?_
  · intro k hk
    simp_all
  · simpa using hnew
  · simp

/-- Follows aliases from a specification, past the aliases `seen`. Every alias is passed at most
once; to come back to one is an error. -/
def resolveFrom (mimes : Table Spec) (seen : List String) (spec : Spec) :
    Except ModeError ModeConfig :=
  let name := lookupName mimes spec
  match _hfind : mimes.find? name with
  | none => .ok (configOf name spec)
  | some next =>
    if _hseen : name ∈ seen then .error (.aliasCycle (seen ++ [name]))
    else (resolveFrom mimes (seen ++ [name]) next).map fun base ↦ overlaySpec base spec
termination_by (unseen mimes seen).length
decreasing_by exact length_unseen_lt ‹_› ‹_›

/-- The configuration a specification leads to. -/
def resolve (registry : Registry) (spec : Spec) : Except ModeError ModeConfig :=
  resolveFrom registry.mimes [] spec

/-! ## Instantiation -/

/-- Builds the mode of a resolved configuration; modes it embeds come from `provide`. -/
def instantiate? (registry : Registry) (provide : Provider) (options : ModeOptions)
    (config : ModeConfig) : Option Mode :=
  (registry.modes.find? config.name).map fun definition ↦
    let built := definition.grammar options config provide
    let extended := match registry.extensions.find? config.name with
      | some extension => built.extend extension
      | none => built
    let stamped : Mode :=
      { extended with
        name := config.name
        helperType := config.helperType.or extended.helperType }
    config.modeProps.entries.foldl (fun mode (key, value) ↦ mode.assignProp key value) stamped

/-- The mode of plain text as it is built in. -/
def builtInPlainText : Mode := { Mode.plainText with name := nullModeName }

/-- The mode of plain text: what its MIME type leads to, or else the built-in one. -/
def plainText (registry : Registry) (provide : Provider) (options : ModeOptions) : Mode :=
  match registry.resolve (.name plainTextMime) with
  | .error _ => builtInPlainText
  | .ok config => (registry.instantiate? provide options config).getD builtInPlainText

/-- The mode of a specification, or that of plain text when there is none. -/
def modeOrPlain (registry : Registry) (provide : Provider) : Provider := fun options spec ↦
  match registry.resolve spec with
  | .error _ => registry.plainText provide options
  | .ok config =>
    (registry.instantiate? provide options config).getD (registry.plainText provide options)

/-- The mode of a specification over the modes provided, or why there is none. -/
def modeOrFault (registry : Registry) (provide : Provider) (options : ModeOptions) (spec : Spec) :
    Except ModeError Mode := do
  let config ← registry.resolve spec
  match registry.instantiate? provide options config with
  | some mode => return mode
  | none => throw (.unknownMode config.name)

/-- Provides modes whose grammars embed others at most `depth` deep; at the bottom there is plain
text. -/
def provider (registry : Registry) : Nat → Provider
  | 0 => fun _ _ ↦ builtInPlainText
  | depth + 1 => registry.modeOrPlain (registry.provider depth)

/-- A depth that no embedding comes to where grammars ask for modes by name and pass their options on,
as all bundled ones do. Each step then goes on from another alias or another registered mode, for one
that came back would come back without end. A grammar that asks for configurations of its own making,
such as its own mode with another option, may come deeper: it gets plain text from there on. -/
def embeddingDepth (registry : Registry) : Nat :=
  registry.mimes.size + registry.modes.size + 4

/-- The mode of a specification. It never fails: plain text stands in for what cannot be found. -/
def getMode (registry : Registry) (options : ModeOptions) (spec : Spec) : Mode :=
  registry.modeOrPlain (registry.provider registry.embeddingDepth) options spec

/-- The mode of a specification, or why there is none. -/
def getMode? (registry : Registry) (options : ModeOptions) (spec : Spec) : Except ModeError Mode :=
  registry.modeOrFault (registry.provider registry.embeddingDepth) options spec

end Registry

end LineLexer
