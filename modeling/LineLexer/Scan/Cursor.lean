import LineLexer.Pattern.Basic
import LineLexer.Text.Case
import LineLexer.Text.Column

/-!
# Scanning a line

A cursor walks over one line. It knows where the current token began, and may be told to treat the
first characters of the line as absent. Scanning actions are steps of the monad `Scan`: they move
the cursor, and fail only where a slice of the line would not fall on character boundaries. Columns
wrap around in a word; the functions that end in a question mark count where overflow is checked.
-/

namespace LineLexer

/-- Tab size where none is asked for. -/
def defaultTabSize : Nat := 8

/-- A place in a line. `lineStart` is the end of the hidden part of the line, and the last two
fields remember the column computed last. -/
structure Cursor where
  line : Line
  tabSize : Nat
  pos : Nat := 0
  start : Nat := 0
  lineStart : Nat := 0
  knownPos : Nat := 0
  knownColumn : Nat := 0
deriving DecidableEq, Repr

namespace Cursor

/-- A cursor at the start of a line; a tab size of zero means the default. -/
def ofLine (line : Line) (tabSize : Nat) : Cursor :=
  { line, tabSize := if tabSize = 0 then defaultTabSize else tabSize }

def atEnd (cursor : Cursor) : Bool := byteLength cursor.line ≤ cursor.pos

/-- At the start of the visible part of the line. -/
def atStart (cursor : Cursor) : Bool := cursor.pos = cursor.lineStart

/-- Begins a token where the cursor stands. -/
def beginToken (cursor : Cursor) : Cursor := { cursor with start := cursor.pos }

/-- Column of the end of the hidden part. -/
def hiddenColumn (cursor : Cursor) : Nat :=
  if cursor.lineStart = 0 then 0
  else countColumn cursor.line (some cursor.lineStart) cursor.tabSize

def hiddenColumn? (cursor : Cursor) : Option Nat :=
  if cursor.lineStart = 0 then some 0
  else countColumn? cursor.line (some cursor.lineStart) cursor.tabSize

/-- Indentation of the line, less its hidden part. -/
def indentation (cursor : Cursor) : Nat :=
  countColumn cursor.line none cursor.tabSize - cursor.hiddenColumn

def indentation? (cursor : Cursor) : Option Nat := do
  return (← countColumn? cursor.line none cursor.tabSize) - (← cursor.hiddenColumn?)

/-- Brings the remembered column up to the start of the token. -/
def recallColumn (cursor : Cursor) : Cursor :=
  if cursor.knownPos < cursor.start then
    { cursor with
      knownPos := cursor.start
      knownColumn := countColumnFrom cursor.line (some cursor.start) cursor.tabSize
        cursor.knownPos cursor.knownColumn }
  else if cursor.start < cursor.knownPos then
    { cursor with
      knownPos := cursor.start
      knownColumn := countColumn cursor.line (some cursor.start) cursor.tabSize }
  else cursor

def recallColumn? (cursor : Cursor) : Option Cursor :=
  if cursor.knownPos < cursor.start then do
    let knownColumn ← countColumnFrom? cursor.line (some cursor.start) cursor.tabSize
      cursor.knownPos cursor.knownColumn
    return { cursor with knownPos := cursor.start, knownColumn }
  else if cursor.start < cursor.knownPos then do
    let knownColumn ← countColumn? cursor.line (some cursor.start) cursor.tabSize
    return { cursor with knownPos := cursor.start, knownColumn }
  else some cursor

end Cursor

/-- Actions on a cursor that may ask for a bad slice. -/
abbrev Scan := StateT Cursor (Except BadSlice)

namespace Scan

/-- The text from the cursor to the end of the line. -/
def rest : Scan (List Char) := do
  let cursor ← get
  sliceFrom cursor.line cursor.pos

/-- The text of the current token. -/
def current : Scan (List Char) := do
  let cursor ← get
  slice cursor.line cursor.start cursor.pos

/-- Moves the cursor forward over `text`. -/
def advance (text : List Char) : Scan Unit :=
  modify fun cursor ↦ { cursor with pos := cursor.pos + byteLength text }

def beginToken : Scan Unit := modify Cursor.beginToken

def peek : Scan (Option Char) := do
  return (← rest).head?

/-- Takes the next character if it is accepted. -/
def eat (accepts : Char → Bool) : Scan (Option Char) := do
  match ← peek with
  | none => return none
  | some c =>
    if accepts c then
      advance [c]
      return some c
    else
      return none

/-- Takes the next character. -/
def next : Scan (Option Char) := eat fun _ ↦ true

/-- Takes a given character. -/
def eatChar (c : Char) : Scan Bool := do
  return (← eat (· == c)).isSome

/-- Takes characters as long as they are accepted; tells whether there was one. -/
def eatWhile (accepts : Char → Bool) : Scan Bool := do
  let taken := (← rest).takeWhile accepts
  advance taken
  return !taken.isEmpty

def eatSpace : Scan Bool := eatWhile isSpace

def skipToEnd : Scan Unit :=
  modify fun cursor ↦ { cursor with pos := byteLength cursor.line }

/-- Moves to the next occurrence of a text, and tells whether there is one. -/
def skipToText (wanted : List Char) : Scan Bool := do
  match offsetOf? wanted (← rest) with
  | none => return false
  | some offset =>
    modify fun cursor ↦ { cursor with pos := cursor.pos + offset }
    return true

/-- Moves to the next occurrence of a character, and tells whether there is one. -/
def skipTo (c : Char) : Scan Bool := skipToText [c]

/-- Moves back by `n` characters, but not into the hidden part of the line; a cursor inside that
part may go back to the start of the line. -/
def backUp (n : Nat) : Scan Unit := do
  let cursor ← get
  let floor := if cursor.pos < cursor.lineStart then 0 else cursor.lineStart
  let passed ← slice cursor.line floor cursor.pos
  set { cursor with pos := floor + byteLength (passed.take (passed.length - n)) }

/-- Column of the current token, less the hidden part of the line. -/
def column : Scan Nat := do
  modify Cursor.recallColumn
  let cursor ← get
  return cursor.knownColumn - cursor.hiddenColumn

/-- Matches a text, and takes it if `consume` is set. -/
def matchText (wanted : List Char) (consume : Bool) : Scan Bool := do
  if wanted.isPrefixOf (← rest) then
    if consume then advance wanted
    return true
  else
    return false

/-- Matches a text up to case, comparing as many characters as it has. -/
def matchTextIgnoringCase (wanted : List Char) (consume : Bool) : Scan Bool := do
  let candidate := (← rest).take wanted.length
  if lower candidate == lower wanted then
    if consume then advance candidate
    return true
  else
    return false

/-- Matches a pattern at the cursor, which counts as the start of the text. -/
def matchPattern (pattern : Pattern) (consume : Bool) : Scan (Option Pattern.Match) := do
  match pattern.match? (← rest) with
  | none => return none
  | some found =>
    if consume then advance found.text
    return some found

/-- Takes a match of a pattern, and tells whether there is one. -/
def eatPattern (pattern : Pattern) : Scan Bool := do
  return (← matchPattern pattern true).isSome

/-- The end of the hidden part once `n` more characters are hidden. -/
def hiddenAfter (n : Nat) : Scan Nat := do
  let cursor ← get
  let visible ← sliceFrom cursor.line cursor.lineStart
  return cursor.lineStart + byteLength (visible.take n)

/-- Runs `body` with `n` more characters hidden. -/
def withHidden {α : Type} (n : Nat) (body : Scan α) : Scan α := do
  let saved := (← get).lineStart
  let boundary ← hiddenAfter n
  modify fun cursor ↦ { cursor with lineStart := boundary }
  let result ← body
  modify fun cursor ↦ { cursor with lineStart := saved }
  return result

end Scan

end LineLexer
