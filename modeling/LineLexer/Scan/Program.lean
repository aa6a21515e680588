import LineLexer.Scan.Cursor

/-!
# Scan programs

Scanning actions as data. A program runs action by action; an action that asks for a bad slice
leaves the cursor as it was and the program goes on. A nested program runs with part of the line
hidden, and whether it finishes or gives up, the hidden part is then restored.
-/

namespace LineLexer

inductive Action where
  | peek
  | next
  | rest
  | current
  | describe
  | beginToken
  | skipToEnd
  | eat (accepts : Char → Bool)
  | eatWhile (accepts : Char → Bool)
  | eatSpace
  | skipTo (c : Char)
  | backUp (n : Nat)
  | column
  | indentation
  | matchText (wanted : List Char) (consume ignoreCase : Bool)
  | matchPattern (pattern : Pattern) (consume : Bool)
  | setPos (offset : Nat)
  | setStart (offset : Nat)
  | hide (n : Nat) (body : List Action) (givesUp : Bool)

/-- What an action answers. -/
inductive Answer where
  | done
  | character (found : Option Char)
  | text (found : List Char)
  | flag (value : Bool)
  | number (value : Nat)
  | line (text : List Char) (tabSize : Nat)
  | captures (found : Option Pattern.Match)
  | nested (answers : List (Answer × Cursor)) (gaveUp : Bool)
  | badSlice

/-- An action's answer and the cursor after it; a failed action does not move the cursor. -/
def Scan.attempt (action : Scan Answer) (cursor : Cursor) : Answer × Cursor :=
  match action.run cursor with
  | .ok reached => reached
  | .error _ => (.badSlice, cursor)

mutual

def Action.run (action : Action) (cursor : Cursor) : Answer × Cursor :=
  match action with
  | .peek => Scan.attempt (.character <$> Scan.peek) cursor
  | .next => Scan.attempt (.character <$> Scan.next) cursor
  | .rest => Scan.attempt (.text <$> Scan.rest) cursor
  | .current => Scan.attempt (.text <$> Scan.current) cursor
  | .describe => (.line cursor.line cursor.tabSize, cursor)
  | .beginToken => (.done, cursor.beginToken)
  | .skipToEnd => Scan.attempt ((fun _ ↦ .done) <$> Scan.skipToEnd) cursor
  | .eat accepts => Scan.attempt (.character <$> Scan.eat accepts) cursor
  | .eatWhile accepts => Scan.attempt (.flag <$> Scan.eatWhile accepts) cursor
  | .eatSpace => Scan.attempt (.flag <$> Scan.eatSpace) cursor
  | .skipTo c => Scan.attempt (.flag <$> Scan.skipTo c) cursor
  | .backUp n => Scan.attempt ((fun _ ↦ .done) <$> Scan.backUp n) cursor
  | .column => Scan.attempt (.number <$> Scan.column) cursor
  | .indentation => (.number cursor.indentation, cursor)
  | .matchText wanted consume ignoreCase =>
    Scan.attempt (.flag <$>
      if ignoreCase then Scan.matchTextIgnoringCase wanted consume
      else Scan.matchText wanted consume) cursor
  | .matchPattern pattern consume =>
    Scan.attempt (.captures <$> Scan.matchPattern pattern consume) cursor
  | .setPos offset => (.done, { cursor with pos := offset })
  | .setStart offset => (.done, { cursor with start := offset })
  | .hide n body givesUp =>
    match (Scan.hiddenAfter n).run cursor with
    | .error _ => (.badSlice, cursor)
    | .ok (boundary, _) =>
      let (answers, last) := runActions body { cursor with lineStart := boundary }
      (.nested answers givesUp, { last with lineStart := cursor.lineStart })

/-- The answers of a program with the cursor after each, and the last cursor. -/
def runActions (program : List Action) (cursor : Cursor) : List (Answer × Cursor) × Cursor :=
  match program with
  | [] => ([], cursor)
  | action :: program =>
    let (answer, reached) := action.run cursor
    let (answers, last) := runActions program reached
    ((answer, reached) :: answers, last)

end

end LineLexer
