import LineLexer.Text.Line
import LineLexer.Text.Quoted
import LineLexer.Text.Width
import LineLexer.Token.Style

/-!
# Token tables

One row for each token: its place, its text in quotes and its class. The text is padded by its
display width before quoting.
-/

namespace LineLexer

/-- Columns of the text of a token. -/
def tableTextWidth : Nat := 24

/-- The row of a token; lines are counted from one. -/
def tableRow (lineNumber : Nat) (line : Line) (token : Token) : Except BadSlice (List Char) := do
  let text ← slice line token.start token.stop
  let place := toString (lineNumber + 1) ++ ":" ++ toString token.start ++ "-" ++ toString token.stop
  let padding := List.replicate (tableTextWidth - displayWidth text) ' '
  let cls := (token.cls.map TokenClass.name).getD "-"
  return place.toList ++ ['\t'] ++ quote text ++ padding ++ ['\t'] ++ cls.toList ++ ['\n']

/-- The rows of the tokens of a line. -/
def tokenTable (lineNumber : Nat) (line : Line) (tokens : List Token) :
    Except BadSlice (List Char) := do
  return (← tokens.mapM (tableRow lineNumber line)).flatten

end LineLexer
