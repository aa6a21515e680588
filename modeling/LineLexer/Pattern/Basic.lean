import LineLexer.Text.Word

/-!
# Patterns

Regular patterns with captures, tried at the beginning of a text. Alternatives are tried in order
and repetitions as often as they can (or, if lazy, as seldom), and the first way that succeeds is
the match. A repetition whose body takes nothing stops, so matching ends on every text.
-/

namespace LineLexer

inductive Pattern where
  | nothing
  | one (accepts : Char → Bool)
  | seq (first second : Pattern)
  | alt (first second : Pattern)
  | star (isLazy : Bool) (body : Pattern)
  | capture (index : Nat) (body : Pattern)
  | textStart
  | textEnd
  | wordEdge

namespace Pattern

/-- A place in a text: the characters already passed, nearest first, and those to come. -/
structure Place where
  before : List Char
  after : List Char

/-- Texts of the capture groups, latest first. -/
abbrev Captures := List (Nat × List Char)

def Place.atWordEdge (place : Place) : Bool :=
  (place.before.head?.any isPatternWord) != (place.after.head?.any isPatternWord)

/-- The text between an earlier place and this one. -/
def Place.since (place start : Place) : List Char :=
  (place.before.take (place.before.length - start.before.length)).reverse

/-- Repeats `step` at most `fuel` times, each time taking at least one character. -/
def iterate {β : Type} (isLazy : Bool)
    (step : Place → Captures → (Place → Captures → Option β) → Option β) :
    Nat → Place → Captures → (Place → Captures → Option β) → Option β
  | 0, place, captures, next => next place captures
  | fuel + 1, place, captures, next =>
    let again (_ : Unit) := step place captures fun reached captures ↦
      if reached.after.length < place.after.length then
        iterate isLazy step fuel reached captures next
      else none
    if isLazy then (next place captures).orElse again
    else (again ()).orElse fun _ ↦ next place captures

/-- Matches at a place and hands every way to go on, in order, to `next` until one succeeds. -/
def run {β : Type} : Pattern → Place → Captures → (Place → Captures → Option β) → Option β
  | .nothing, place, captures, next => next place captures
  | .one accepts, place, captures, next =>
    match place.after with
    | [] => none
    | c :: after => if accepts c then next ⟨c :: place.before, after⟩ captures else none
  | .seq first second, place, captures, next =>
    first.run place captures fun reached captures ↦ second.run reached captures next
  | .alt first second, place, captures, next =>
    (first.run place captures next).orElse fun _ ↦ second.run place captures next
  | .star isLazy body, place, captures, next =>
    iterate isLazy (fun place captures next ↦ body.run place captures next)
      place.after.length place captures next
  | .capture index body, place, captures, next =>
    body.run place captures fun reached captures ↦
      next reached ((index, reached.since place) :: captures)
  | .textStart, place, captures, next => if place.before.isEmpty then next place captures else none
  | .textEnd, place, captures, next => if place.after.isEmpty then next place captures else none
  | .wordEdge, place, captures, next => if place.atWordEdge then next place captures else none

/-- The number of capture groups, which are numbered from one. -/
def groupCount : Pattern → Nat
  | .seq first second | .alt first second => max first.groupCount second.groupCount
  | .star _ body => body.groupCount
  | .capture index body => max index body.groupCount
  | _ => 0

/-- A match: the text taken, and the text of each group that took part. -/
structure Match where
  text : List Char
  groups : List (Option (List Char))
deriving DecidableEq, Repr

/-- The match that starts where the text starts. -/
def match? (pattern : Pattern) (text : List Char) : Option Match :=
  pattern.run ⟨[], text⟩ [] fun reached captures ↦
    some ⟨reached.before.reverse,
      (List.range pattern.groupCount).map fun i ↦ captures.lookup (i + 1)⟩

/-- Whether a match starts anywhere in a text of one character, its end included. -/
def accepts (pattern : Pattern) (c : Char) : Bool :=
  (pattern.run ⟨[], [c]⟩ [] fun _ _ ↦ some ()).isSome
    || (pattern.run ⟨[c], []⟩ [] fun _ _ ↦ some ()).isSome

/-! ## Compound patterns -/

def char (c : Char) : Pattern := .one (· == c)

def oneOf (chars : List Char) : Pattern := .one chars.contains

def text (chars : List Char) : Pattern :=
  chars.foldr (fun c rest ↦ .seq (char c) rest) .nothing

def concat (parts : List Pattern) : Pattern := parts.foldr .seq .nothing

def choice (first : Pattern) (others : List Pattern) : Pattern :=
  others.foldl .alt first

def many (body : Pattern) : Pattern := .star false body

def many1 (body : Pattern) : Pattern := .seq body (.star false body)

def optional (body : Pattern) : Pattern := .alt body .nothing

def times (n : Nat) (body : Pattern) : Pattern := concat (List.replicate n body)

def digit : Pattern := .one isDecimal

end Pattern

end LineLexer
