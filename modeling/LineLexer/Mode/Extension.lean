import LineLexer.Mode.Basic

/-!
# Extensions

An extension replaces operations and properties of a mode that a grammar has built. The operations
for tokens and indentation are given the operation they replace. Extensions of one mode are merged
first, the later winning slot by slot, so that what an extension replaces is always the grammar's.
-/

namespace LineLexer

structure Extension where
  token : Option (TokenOp → TokenOp) := none
  startState : Option (Nat → State) := none
  copyState : Option (State → State) := none
  inner : Option (State → Option (Delegate Mode)) := none
  indent : Option (IndentOp → IndentOp) := none
  blankLine : Option (State → State) := none
  props : Table Property := {}

namespace Extension

/-- Both extensions, where `later` wins. -/
def merge (earlier later : Extension) : Extension where
  token := later.token.or earlier.token
  startState := later.startState.or earlier.startState
  copyState := later.copyState.or earlier.copyState
  inner := later.inner.or earlier.inner
  indent := later.indent.or earlier.indent
  blankLine := later.blankLine.or earlier.blankLine
  props := earlier.props.overlay later.props

/-- A slot after an extension that may set it. -/
def overrideSlot {α : Type} (slot : Option (Overridable α)) (value : Option α) :
    Option (Overridable α) :=
  match value with
  | some value => some (.replace slot value)
  | none => slot

end Extension

/-- Applies an extension to a mode. -/
def Mode.extend (mode : Mode) (extension : Extension) : Mode :=
  let extended : Mode :=
    { mode with
      token := match extension.token with
        | some op => .replace (some mode.token) (op mode.token.current)
        | none => mode.token
      startState := Extension.overrideSlot mode.startState extension.startState
      copyState := Extension.overrideSlot mode.copyState extension.copyState
      inner := Extension.overrideSlot mode.inner extension.inner
      indent := Extension.overrideSlot mode.indent
        (extension.indent.map fun op ↦ op mode.suggestIndent)
      blankLine := Extension.overrideSlot mode.blankLine extension.blankLine }
  extension.props.entries.foldl (fun mode (key, value) ↦ mode.replaceProp key value) extended

end LineLexer
