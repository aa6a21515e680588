import LineLexer.Highlight.Cache

/-!
# Requests to a highlighting cache

A host sends a cache requests one after another: to highlight a document, to indent one of its
lines, to declare lines out of date, to take up another mode, to tell the state after a line. A
disciplined host declares a line out of date before it sends a document in which that line differs
from the document it sent before.

The lookups of a cache are also spelled out here with their indices, so that one that is out of
range shows.
-/

namespace LineLexer.HighlightCache

inductive Request where
  | highlight (document : List Line)
  | indent (document : List Line) (line : Nat)
  | invalidateFrom (line : Nat)
  | invalidateAll
  | setMode (mode : Mode)
  | stateAfter (line : Nat)

inductive Answer where
  | done
  | spans (lines : List (List Span))
  | indentation (suggested : Option Nat)
  | state (found : Option State)

def serve (cache : HighlightCache) : Request → Except BadSlice (Answer × HighlightCache)
  | .highlight document => do
    let (spans, after) ← cache.highlightDocument document
    return (.spans spans, after)
  | .indent document line => do
    let (suggested, after) ← cache.indentLine document line
    return (.indentation suggested, after)
  | .invalidateFrom line => .ok (.done, cache.invalidateFrom line)
  | .invalidateAll => .ok (.done, cache.invalidateAll)
  | .setMode mode => .ok (.done, cache.setMode mode)
  | .stateAfter line => .ok (.state (cache.stateAfter? line), cache)

/-- Answers requests in order, as long as none of them fails. -/
def serveAll (cache : HighlightCache) : List Request → Except BadSlice (List Answer × HighlightCache)
  | [] => .ok ([], cache)
  | request :: requests => do
    let (answer, after) ← cache.serve request
    let (answers, last) ← after.serveAll requests
    return (answer :: answers, last)

/-! ## What a host owes to its cache -/

namespace Request

/-- The document a request reads lines of; to indent a line past its end reads none. -/
def document? : Request → Option (List Line)
  | .highlight document => some document
  | .indent document line => if line < document.length then some document else none
  | _ => none

/-- The request declares line `index` out of date. -/
def Announces : Request → Nat → Prop
  | .invalidateFrom line, index => line ≤ index
  | .invalidateAll, _ | .setMode _, _ => True
  | _, _ => False

/-- The mode of a cache after a request. -/
def modeAfter (mode : Mode) : Request → Mode
  | .setMode other => other
  | _ => mode

end Request

/-- The document a host sent last, and its requests since. Before the first one it is empty. -/
structure Session where
  document : List Line := []
  since : List Request := []

namespace Session

def after (session : Session) (request : Request) : Session :=
  match request.document? with
  | some document => { document }
  | none => { session with since := session.since ++ [request] }

/-- Every line that a request changes has been declared out of date since the last document. -/
def Permits (session : Session) (request : Request) : Prop :=
  ∀ document, request.document? = some document →
    ∀ index, index < session.document.length → index < document.length →
      session.document[index]? ≠ document[index]? →
        ∃ earlier ∈ session.since, earlier.Announces index

/-- Every request is permitted when its turn comes. -/
def Disciplined : Session → List Request → Prop
  | _, [] => True
  | session, request :: requests =>
    session.Permits request ∧ (session.after request).Disciplined requests

end Session

/-! ## Lookups by index -/

/-- What can go wrong in a cache: a bad slice of a line, or a lookup past the cached lines. -/
inductive Fault where
  | slice (fault : BadSlice)
  | index (wanted : Nat)
deriving DecidableEq, Repr

/-- Highlights lines from line `index` on, and looks up the state of the line before each by its
index among the cached lines. -/
def fillFrom (mode : Mode) (tabSize : Nat) :
    Nat → List CachedLine → List Line → Except Fault (List CachedLine)
  | _, cached, [] => .ok cached
  | index, cached, line :: lines => do
    let before ← match index with
      | 0 => .ok (mode.start 0)
      | previous + 1 =>
        match cached[previous]? with
        | some found => .ok (mode.copy found.state)
        | none => .error (.index previous)
    let (spans, after) ← (highlightLine mode line before tabSize).mapError .slice
    fillFrom mode tabSize (index + 1) (cached ++ [⟨spans, after⟩]) lines

/-- Brings the first `count` lines up to date, by index. -/
def ensureLinesByIndex (cache : HighlightCache) (document : List Line) (count : Nat) :
    Except Fault HighlightCache :=
  let count := min count document.length
  let valid := min cache.validLines document.length
  if count ≤ valid then
    .ok { cache with lines := cache.lines.take document.length, validLines := valid }
  else do
    let lines ← fillFrom cache.mode cache.tabSize valid (cache.lines.take valid)
      ((document.take count).drop valid)
    return { cache with lines, validLines := count }

/-- Answers one request, by index: a document has spans only if as many lines are cached. -/
def serveByIndex (cache : HighlightCache) : Request → Except Fault (Answer × HighlightCache)
  | .highlight document => do
    let after ← cache.ensureLinesByIndex document document.length
    if document.length ≤ after.lines.length then
      return (.spans ((after.lines.take document.length).map CachedLine.spans), after)
    else
      throw (.index document.length)
  | .indent document line =>
    match document[line]? with
    | none => .ok (.indentation none, cache)
    | some text => do
      let after ← cache.ensureLinesByIndex document line
      let before := match line with
        | 0 => none
        | previous + 1 => after.stateAfter? previous
      let state := before.getD (after.mode.start 0)
      return (.indentation (after.mode.suggestIndent state (trimStart text)), after)
  | request => (cache.serve request).mapError .slice

end LineLexer.HighlightCache
