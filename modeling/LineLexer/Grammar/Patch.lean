import LineLexer.Registry.Basic

/-!
# Unified diffs

Headers are tokens of their own. On other lines the marker is a token, and the rest of the line goes
to another mode with the marker hidden from it. Its state is in the field `inner`.
-/

namespace LineLexer.PatchGrammar

open Scan

/-- What a header line begins with. -/
def headerStarts : List (List Char) :=
  ["@@".toList, "+++".toList, "---".toList, "diff ".toList, "index ".toList]

/-- The class of the marker of a content line. -/
def markerClass? : Char → Option TokenClass
  | '+' => some .inserted
  | '-' => some .deleted
  | ' ' => some .marker
  | _ => none

/-- Reads a header or a marker at the start of a line. -/
def readLineStart : Scan TokenClass := do
  let text ← rest
  if headerStarts.any (·.isPrefixOf text) then
    skipToEnd
    return .header
  match (← next).bind markerClass? with
  | some cls => return cls
  | none =>
    skipToEnd
    return .marker

/-- The state of the inner mode. -/
def innerState? (state : State) : Option State :=
  state.record?.bind (Record.state? · "inner")

/-- Reads one token. -/
def readToken (inner : Mode) : TokenOp := fun state ↦ do
  match state with
  | .record fields =>
    if (← get).atStart then
      return (some (← readLineStart), state)
    match Record.state? fields "inner" with
    | none =>
      skipToEnd
      return (none, state)
    | some nested =>
      let (cls, after) ← withHidden 1 (inner.readToken nested)
      return (cls, .record (fields.insert "inner" (.state after)))
  | _ =>
    skipToEnd
    return (none, state)

/-- The mode of diffs over the mode of their content. -/
def mode (inner : Mode) : Mode :=
  (((Mode.ofToken (readToken inner)).withStartState fun baseIndent ↦
    .record (.ofList [("inner", .state (inner.start baseIndent))])).withInner fun state ↦
    (innerState? state).map (.nested inner)).withBlankLine fun state ↦
    match innerState? state with
    | some nested =>
      state.mapRecord (·.insert "inner" (.state (inner.skipBlankLine nested)))
    | none => state

/-- The grammar of diffs. The option `inner` names the mode of their content. -/
def grammar : Grammar := fun options config provide ↦
  mode (provide options (.name ((config.str? "inner").getD "clike")))

/-- Registers the grammar and its MIME types. -/
def register (registry : Registry) : Registry :=
  let registry := registry.defineMode "patch" ⟨grammar, ["clike"]⟩
  let registry := registry.defineMime "text/x-diff" (.name "patch")
  registry.defineMime "text/x-patch" (.name "text/x-diff")

end LineLexer.PatchGrammar
