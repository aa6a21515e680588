import LineLexer.Mode.Basic
import LineLexer.Token.Style

/-!
# Tokens and spans of a line

The token operation of a mode is called until the line is used up. A call that does not move the
cursor forward yields nothing; after too many of these in a row the rest of the line becomes one
token without a class, so the loop ends for every mode.
-/

namespace LineLexer

/-- Calls in a row that may leave the cursor in place before the rest of the line is given up. -/
def maxStalledCalls : Nat := 10

/-- Reads tokens from the cursor to the end of the line, after `stalled` calls without progress. -/
def readTokens (token : TokenOp) (cursor : Cursor) (stalled : Nat) (state : State) :
    Except BadSlice (List Token × State) :=
  if _hend : byteLength cursor.line ≤ cursor.pos then .ok ([], state)
  else
    match token state cursor.beginToken with
    | .error fault => .error fault
    | .ok ((cls, after), reached) =>
      if hmove : reached.pos ≤ cursor.pos then
        if hstall : maxStalledCalls ≤ stalled + 1 then
          .ok ([⟨cursor.pos, byteLength cursor.line, none⟩], after)
        else
          readTokens token { reached with line := cursor.line, pos := cursor.pos } (stalled + 1) after
      else
        match readTokens token { reached with line := cursor.line } 0 after with
        | .error fault => .error fault
        | .ok (tokens, last) => .ok (⟨cursor.pos, reached.pos, cls⟩ :: tokens, last)
termination_by (byteLength cursor.line - cursor.pos, maxStalledCalls - stalled)
decreasing_by
  · exact Prod.Lex.right _ (by omega)
  · exact Prod.Lex.left _ _ (show _ - reached.pos < _ by omega)

/-- The tokens of a line and the state after it. An empty line goes to the mode's operation for
empty lines. -/
def tokenizeLine (mode : Mode) (line : Line) (state : State) (tabSize : Nat) :
    Except BadSlice (List Token × State) :=
  if line.isEmpty then .ok ([], mode.skipBlankLine state)
  else readTokens mode.readToken (Cursor.ofLine line tabSize) 0 state

/-- The spans of the tokens that have a class; neighbours of one class become one span. -/
def mergeTokens : List Token → List Span
  | [] => []
  | token :: tokens =>
    match token.cls, mergeTokens tokens with
    | none, spans => spans
    | some cls, [] => [Span.ofClass token.start token.stop (some cls)]
    | some cls, span :: spans =>
      if token.stop = span.start ∧ span.cls = some cls then
        { span with start := token.start } :: spans
      else
        Span.ofClass token.start token.stop (some cls) :: span :: spans

/-- The styled spans of a line and the state after it. -/
def highlightLine (mode : Mode) (line : Line) (state : State) (tabSize : Nat) :
    Except BadSlice (List Span × State) := do
  let (tokens, after) ← tokenizeLine mode line state tabSize
  return (mergeTokens tokens, after)

/-- The tokens of each line, with one state passed from line to line. -/
def tokenizeLines (mode : Mode) (tabSize : Nat) :
    State → List Line → Except BadSlice (List (List Token × State))
  | _, [] => .ok []
  | state, line :: lines => do
    let (tokens, after) ← tokenizeLine mode line state tabSize
    let others ← tokenizeLines mode tabSize after lines
    return (tokens, after) :: others

/-- The spans of each line, with one state passed from line to line. -/
def highlightLines (mode : Mode) (tabSize : Nat) (state : State) (lines : List Line) :
    Except BadSlice (List (List Span)) := do
  return (← tokenizeLines mode tabSize state lines).map fun (tokens, _) ↦ mergeTokens tokens

/-- A token read by hand: its range, its class and its column. -/
structure TracedToken where
  start : Nat
  stop : Nat
  cls : Option TokenClass
  column : Nat
deriving DecidableEq, Repr

/-- Reads at most `calls` tokens without dropping empty ones, and asks for the column of each. -/
def traceTokens (token : TokenOp) : Nat → State → Scan (List TracedToken × State)
  | 0, state => return ([], state)
  | calls + 1, state => do
    if (← get).atEnd then
      return ([], state)
    Scan.beginToken
    let (cls, after) ← token state
    let column ← Scan.column
    let cursor ← get
    let (others, last) ← traceTokens token calls after
    return (⟨cursor.start, cursor.pos, cls, column⟩ :: others, last)

end LineLexer
