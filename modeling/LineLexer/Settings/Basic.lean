import LineLexer.Grammar.Bundled
import LineLexer.Settings.Path
import LineLexer.Toml.Reader

/-!
# Settings

What a user sets in a TOML file: widths, a default mode, and further MIME types and file
extensions. Keys that mean nothing here are passed over; a value of the wrong kind makes the file
invalid.
-/

namespace LineLexer

structure Settings where
  tabWidth : Nat := 4
  indentUnit : Nat := 2
  defaultMode : Option Spec := none
  mimes : Table Spec := {}
  extensions : Table Spec := {}

namespace Settings

/-! ## Decoding -/

mutual

/-- The property a value stands for. -/
def property? : Toml.Value → Option Property
  | .bool value => some (.bool value)
  | .int value => some (.int value)
  | .str value => some (.str value)
  | .array items => (properties? items).map .list
  | _ => none

def properties? : List Toml.Value → Option (List Property)
  | [] => some []
  | item :: items => do
    let first ← property? item
    let others ← properties? items
    return first :: others

end

/-- The properties a table holds. -/
def propertyTable? (entries : Toml.Entries) : Option (Table Property) := do
  let pairs ← entries.mapM fun (key, value) ↦ (property? value).map (key, ·)
  return .ofList pairs

def string? : Toml.Value → Option String
  | .str value => some value
  | _ => none

/-- The key of the text of a date that stands for a table. -/
def dateKey : String := "$__toml_private_datetime"

/-- The entries of a table. A date stands for a table that holds its text. -/
def entries? : Toml.Value → Option Toml.Entries
  | .table _ entries => some entries
  | .datetime text => some [(dateKey, .str text)]
  | _ => none

/-- The configuration a table describes: its name, its helper type and properties if it has them,
and all else as options. -/
def modeConfig? (entries : Toml.Entries) : Option ModeConfig := do
  let name ← (entries.lookup "name").bind string?
  let helperType ← match entries.lookup "helper-type" with
    | none => some none
    | some value => (string? value).map some
  let modeProps ← match entries.lookup "mode-props" with
    | none => some {}
    | some value => (entries? value).bind propertyTable?
  let options ← propertyTable?
    (entries.filter fun (key, _) ↦ !(["name", "helper-type", "mode-props"].contains key))
  return { name, helperType, modeProps, options }

/-- The specification a value stands for. -/
def spec? : Toml.Value → Option Spec
  | .str name => some (.name name)
  | .table _ entries => (modeConfig? entries).map .config
  | _ => none

/-- The specifications a table holds. -/
def specTable? (value : Toml.Value) : Option (Table Spec) := do
  let pairs ← (← entries? value).mapM fun (key, value) ↦ (spec? value).map (key, ·)
  return .ofList pairs

def natural? : Toml.Value → Option Nat
  | .int value => if 0 ≤ value then some value.toNat else none
  | _ => none

/-- The value of a key, or `fallback` when the key is not there. -/
def field? {α : Type} (entries : Toml.Entries) (key : String) (decode : Toml.Value → Option α)
    (fallback : α) : Option α :=
  match entries.lookup key with
  | some value => decode value
  | none => some fallback

/-- Widths are from one to sixteen. -/
def clampWidth (width : Nat) : Nat := max 1 (min width 16)

/-- The settings a document describes. -/
def ofEntries? (entries : Toml.Entries) : Option Settings := do
  let defaults : Settings := {}
  let tabWidth ← field? entries "tab_width" natural? defaults.tabWidth
  let indentUnit ← field? entries "indent_unit" natural? defaults.indentUnit
  let defaultMode ← field? entries "default_mode" (fun value ↦ (spec? value).map some) none
  let mimes ← field? entries "mime" specTable? {}
  let extensions ← field? entries "extensions" specTable? {}
  return {
    tabWidth := clampWidth tabWidth
    indentUnit := clampWidth indentUnit
    defaultMode
    mimes
    extensions := .ofList (extensions.entries.map fun (extension, spec) ↦
      (String.ofList (lower extension.toList), spec)) }

/-- Reads settings from the text of a file. -/
def ofText (text : List Char) : Except ModeError Settings :=
  match (Toml.read? text).bind ofEntries? with
  | some settings => .ok settings
  | none => .error .invalidSettings

/-! ## Use -/

def modeOptions (settings : Settings) : ModeOptions := ⟨settings.tabWidth, settings.indentUnit⟩

/-- Registers the MIME types, and the default mode if it is the name of a registered one. -/
def apply (settings : Settings) (registry : Registry) : Registry :=
  let registry := settings.mimes.entries.foldl
    (fun registry (mime, spec) ↦ registry.defineMime mime spec) registry
  match settings.defaultMode with
  | some (.name name) =>
    if registry.modes.contains name then registry.setDefaultMode name else registry
  | _ => registry

/-- The mode for a file by its extension: one that is set, or else a common one. -/
def specForPath? (settings : Settings) (path : List Char) : Option Spec := do
  let extension := String.ofList (lower (← extension? path))
  (settings.extensions.find? extension).or ((mimeForExtension? extension).map .name)

end Settings

end LineLexer
