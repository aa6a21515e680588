import LineLexer.Highlight.Cache
import LineLexer.Registry.Basic
import LineLexer.Text.Quoted

/-!
# Descriptions

One-line descriptions of modes, states, helpers and caches, for logs and inspection.
-/

namespace LineLexer

/-- Items between brackets, parted by commas. -/
def bracketed (opening closing : String) (items : List String) : String :=
  opening ++ ", ".intercalate items ++ closing

/-- A type name with its fields in braces. -/
def describeFields (name : String) (fields : List (String × String)) : String :=
  bracketed (name ++ " \x7b ") " \x7d" (fields.map fun (key, value) ↦ key ++ ": " ++ value)

def describeText (text : String) : String := String.ofList (quote text.toList)

def describeBool (value : Bool) : String := if value then "true" else "false"

def describeOption (value : Option String) : String :=
  match value with
  | some text => "Some(" ++ text ++ ")"
  | none => "None"

/-- A character in single quotes. -/
def describeChar (c : Char) : String :=
  if c = '\'' then "'\\''" else String.ofList ['\'', c, '\'']

def Reading.describe : Reading → String
  | .base => "Base"
  | .blockComment => "BlockComment"
  | .string delimiter => "String(" ++ describeChar delimiter ++ ")"

/-- The open brackets are listed in the order of opening. -/
def CodeState.describe (state : CodeState) : String :=
  describeFields "ClikeState"
    [("tokenize", state.reading.describe),
      ("contexts", bracketed "[" "]" (state.contexts.reverse.map describeChar)),
      ("base_indent", toString state.baseIndent)]

mutual

def Property.describe : Property → String
  | .bool value => "Bool(" ++ describeBool value ++ ")"
  | .int value => "Int(" ++ toString value ++ ")"
  | .str value => "Str(" ++ describeText value ++ ")"
  | .list items => "List(" ++ bracketed "[" "]" (describeProperties items) ++ ")"

def describeProperties : List Property → List String
  | [] => []
  | item :: items => item.describe :: describeProperties items

end

def Overridable.describe (value : Overridable Property) : String :=
  describeFields "Overridable"
    [("current", describeOption (some value.current.describe)),
      ("shadowed", describeOption (value.shadowed.map Property.describe))]

def Mode.describe (mode : Mode) : String :=
  describeFields "Mode"
    [("name", describeText mode.name),
      ("start_state", describeBool mode.startState.isSome),
      ("copy_state", describeBool mode.copyState.isSome),
      ("inner_mode", describeBool mode.inner.isSome),
      ("indent", describeBool mode.indent.isSome),
      ("helper_type", describeOption (mode.helperType.map describeText)),
      ("props", bracketed "\x7b" "\x7d" (mode.props.entries.map fun (key, value) ↦
        describeText key ++ ": " ++ value.describe))]

def HelperCategory.describe (category : HelperCategory) : String :=
  describeFields "HelperCategory"
    [("names", bracketed "[" "]" (category.byName.keys.map describeText)),
      ("global", toString category.global.length)]

def HookRegistry.describe (hooks : HookRegistry) : String :=
  describeFields "HookRegistry"
    [("init_hooks", toString hooks.initHooks.length),
      ("editor_extensions", toString hooks.editorExtensions.size),
      ("doc_extensions", toString hooks.documentExtensions.size)]

def HighlightCache.describe (cache : HighlightCache) : String :=
  describeFields "HighlightCache"
    [("mode", describeText cache.mode.name),
      ("tab_size", toString cache.tabSize),
      ("valid_lines", toString cache.validLines)]

end LineLexer
