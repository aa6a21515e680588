import LineLexer.Table

/-!
# Properties and specifications

Loosely typed values for options and properties of modes, and the specifications that select a
mode: a name, or a name with options.
-/

namespace LineLexer

inductive Property where
  | bool (value : Bool)
  | int (value : Int)
  | str (value : String)
  | list (items : List Property)

namespace Property

def bool? : Property → Option Bool
  | .bool value => some value
  | _ => none

def int? : Property → Option Int
  | .int value => some value
  | _ => none

def str? : Property → Option String
  | .str value => some value
  | _ => none

def list? : Property → Option (List Property)
  | .list items => some items
  | _ => none

end Property

/-- What a host tells every grammar. -/
structure ModeOptions where
  tabSize : Nat := 4
  indentUnit : Nat := 2
deriving DecidableEq, Repr

/-- A mode by name, with the options its grammar reads and the properties put on the mode. -/
structure ModeConfig where
  name : String
  helperType : Option String := none
  modeProps : Table Property := {}
  options : Table Property := {}

namespace ModeConfig

/-- A string option. -/
def str? (config : ModeConfig) (key : String) : Option String :=
  (config.options.find? key).bind Property.str?

/-- The strings of a list option. -/
def strings (config : ModeConfig) (key : String) : List String :=
  (((config.options.find? key).bind Property.list?).getD []).filterMap Property.str?

/-- Lays a caller's configuration over this one: what the caller sets wins, the name stays. -/
def overlay (base caller : ModeConfig) : ModeConfig where
  name := base.name
  helperType := caller.helperType.or base.helperType
  modeProps := base.modeProps.overlay caller.modeProps
  options := base.options.overlay caller.options

end ModeConfig

/-- What selects a mode: a mode name or MIME type, or one with options. -/
inductive Spec where
  | name (name : String)
  | config (config : ModeConfig)

instance : Inhabited Spec := ⟨.name ""⟩

end LineLexer
