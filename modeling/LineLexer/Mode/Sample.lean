import LineLexer.Mode.Extension

/-!
# Sample modes and extensions

Small modes with one trait each: words and blanks, a mode that stalls or steps back, a mode that
hands everything to another, a mode with no state. Extensions to match replace one operation each.
-/

namespace LineLexer.Sample

open Scan

/-- Blanks, and words of a given class. -/
def words (cls : TokenClass) : Mode :=
  (Mode.ofToken fun state ↦ do
    if ← eatSpace then
      return (none, state)
    let _ ← eatWhile fun c ↦ !isWhiteSpace c
    return (some cls, state)).withProp "lineComment" (.str "#")

/-- Takes a character at every call whose number `period` divides. At the others it stays, or with
`retreat` steps back. -/
def stall (period : Int) (retreat : Bool) : Mode :=
  ((Mode.ofToken fun state ↦ do
    let counted := state.mapRecord (Record.increment · "calls")
    let calls := match counted with
      | .record fields => Record.int fields "calls"
      | _ => 0
    if calls % max period 1 = 0 then
      let _ ← next
      return (some .keyword, counted)
    else
      if retreat then backUp 1
      return (some .error, counted)).withStartState fun baseIndent ↦
    .record (.ofList [("calls", .int 0), ("base", .int baseIndent)])).withBlankLine
    (State.mapRecord (Record.increment · "blanks"))

/-- The state under the field `inner` of a record. -/
def innerState? (state : State) : Option State :=
  state.record?.bind (Record.state? · "inner")

/-- Hands every token to another mode, whose state is in the field `inner`. -/
def nest (inner : Mode) : Mode :=
  let token : TokenOp := fun state ↦ do
    match innerState? state with
    | none =>
      skipToEnd
      return (none, state)
    | some nested =>
      let (cls, after) ← inner.readToken nested
      return (cls, state.mapRecord (·.insert "inner" (.state after)))
  ((((Mode.ofToken token).withStartState fun baseIndent ↦
    .record (.ofList [("inner", .state (inner.start baseIndent))])).withInner fun state ↦
    (innerState? state).map (.nested inner)).withIndent fun state text ↦
    (innerState? state).bind fun nested ↦ inner.suggestIndent nested text).withBlankLine fun state ↦
    state.mapRecord fun fields ↦
      let fields := Record.increment fields "blanks"
      match fields.state? "inner" with
      | some nested => fields.insert "inner" (.state (inner.skipBlankLine nested))
      | none => fields

/-- One token to the end of the line. -/
def bare : Mode :=
  Mode.ofToken fun state ↦ do
    skipToEnd
    return (some .marker, state)

/-- The mode numbered `index` over `depth` more, each of which reports the next with the state under
`inner`. The last reports nothing, or itself. -/
def chain (reportsItself : Bool) (index : Nat) : Nat → Mode
  | 0 =>
    let last := { Mode.plainText with name := toString index }
    if reportsItself then last.withInner fun state ↦ some (.itself state) else last
  | depth + 1 =>
    let next := chain reportsItself (index + 1) depth
    { Mode.plainText with name := toString index }.withInner fun state ↦
      (innerState? state).map (.nested next)

/-- Records nested `levels` deep around a stateless one, numbered from `level`. -/
def nestedRecords (level : Nat) : Nat → State
  | 0 => .stateless
  | levels + 1 =>
    .record (.ofList [("level", .int level), ("inner", .state (nestedRecords (level + 1) levels))])

/-! ## Extensions -/

/-- Gives every token with a class the same class. -/
def relabel (cls : TokenClass) : TokenOp → TokenOp := fun replaced state ↦ do
  let (found, after) ← replaced state
  return (found.map fun _ ↦ cls, after)

/-- A record of given fields and the base indentation. -/
def startRecord (fields : Record) (baseIndent : Nat) : State :=
  .record (fields.insert "base" (.int baseIndent))

/-- Counts the copies made of a record. -/
def countCopies : State → State := State.mapRecord (Record.increment · "copies")

/-- Counts empty lines. -/
def countBlanks : State → State := State.mapRecord (Record.increment · "blanks")

def fixedIndent (indent : Option Nat) : IndentOp → IndentOp := fun _ _ _ ↦ indent

/-- Twice the indentation of the replaced operation. -/
def doubleIndent : IndentOp → IndentOp := fun replaced state text ↦
  (replaced state text).map (2 * ·)

end LineLexer.Sample
