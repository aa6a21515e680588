import LineLexer.Highlight.Tokens

/-!
# Highlighting a document

The cache keeps the spans and the state of each line, so that after a change only the lines from
the first changed one on are read again.
-/

namespace LineLexer

/-- The spans of a line and the state after it. -/
structure CachedLine where
  spans : List Span
  state : State

/-- Highlighted lines of a document, of which the first `validLines` are up to date. -/
structure HighlightCache where
  mode : Mode
  tabSize : Nat
  lines : List CachedLine := []
  validLines : Nat := 0

namespace HighlightCache

def ofMode (mode : Mode) (tabSize : Nat) : HighlightCache := { mode, tabSize }

/-- Drops everything that is cached. -/
def invalidateAll (cache : HighlightCache) : HighlightCache :=
  { cache with lines := [], validLines := 0 }

/-- Takes up another mode, which drops everything that is cached. -/
def setMode (cache : HighlightCache) (mode : Mode) : HighlightCache :=
  { cache with mode := mode }.invalidateAll

/-- Declares a line and those after it out of date. -/
def invalidateFrom (cache : HighlightCache) (line : Nat) : HighlightCache :=
  { cache with validLines := min cache.validLines line }

/-- The state after a line that is up to date. -/
def stateAfter? (cache : HighlightCache) (line : Nat) : Option State :=
  if line < cache.validLines then cache.lines[line]?.map CachedLine.state else none

/-- Highlights lines after a line that ended in state `previous`, each from a copy of the state
before it. -/
def highlightAfter (mode : Mode) (tabSize : Nat) :
    Option State → List Line → Except BadSlice (List CachedLine)
  | _, [] => .ok []
  | previous, line :: lines => do
    let before := match previous with
      | some state => mode.copy state
      | none => mode.start 0
    let (spans, after) ← highlightLine mode line before tabSize
    let others ← highlightAfter mode tabSize (some after) lines
    return ⟨spans, after⟩ :: others

/-- Brings the first `count` lines of a document up to date. -/
def ensureLines (cache : HighlightCache) (document : List Line) (count : Nat) :
    Except BadSlice HighlightCache :=
  let count := min count document.length
  let valid := min cache.validLines document.length
  if count ≤ valid then
    .ok { cache with lines := cache.lines.take document.length, validLines := valid }
  else do
    let kept := cache.lines.take valid
    let fresh ← highlightAfter cache.mode cache.tabSize (kept.getLast?.map CachedLine.state)
      ((document.take count).drop valid)
    return { cache with lines := kept ++ fresh, validLines := count }

/-- The spans of every line of a document. -/
def highlightDocument (cache : HighlightCache) (document : List Line) :
    Except BadSlice (List (List Span) × HighlightCache) := do
  let cache ← cache.ensureLines document document.length
  return ((cache.lines.take document.length).map CachedLine.spans, cache)

/-- The indentation the mode suggests for a line, from the state after the line before. -/
def indentLine (cache : HighlightCache) (document : List Line) (line : Nat) :
    Except BadSlice (Option Nat × HighlightCache) :=
  match document[line]? with
  | none => .ok (none, cache)
  | some text => do
    let cache ← cache.ensureLines document line
    let before := match line with
      | 0 => none
      | previous + 1 => cache.stateAfter? previous
    let state := before.getD (cache.mode.start 0)
    return (cache.mode.suggestIndent state (trimStart text), cache)

end HighlightCache

end LineLexer
