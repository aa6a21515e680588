import LineLexer.Text.Line
import LineLexer.Token.Style

/-!
# Painting a line

A line with styled spans becomes a list of drawing commands, and these become text with the escape
sequences of a terminal. `Screen` says what the commands mean: which characters are printed, and in
which style.
-/

namespace LineLexer

/-- What a terminal is told to do. -/
inductive Command where
  | print (text : List Char)
  | foreground (color : Color)
  | background (color : Color)
  | bold
  | italic
  | underline
  | reset
deriving DecidableEq, Repr

/-- The commands that switch a style on; the plain style needs none. -/
def Style.commands (style : Style) : List Command :=
  (if style.foreground = .unset then [] else [.foreground style.foreground])
    ++ (if style.background = .unset then [] else [.background style.background])
    ++ (if style.bold then [.bold] else [])
    ++ (if style.italic then [.italic] else [])
    ++ (if style.underline then [.underline] else [])

/-- Paints spans in order from byte offset `pos` on, and the text between and after them. -/
def paintFrom (line : Line) : Nat → List Span → Except BadSlice (List Command)
  | pos, [] =>
    if pos < byteLength line then do
      let text ← sliceFrom line pos
      return [.print text]
    else
      .ok []
  | pos, span :: spans => do
    let before ← if pos < span.start then do
        let text ← slice line pos span.start
        pure [Command.print text]
      else pure []
    let text ← slice line span.start span.stop
    let painted :=
      if span.style = .plain then [.print text]
      else span.style.commands ++ [.print text, .reset]
    let others ← paintFrom line span.stop spans
    return before ++ painted ++ others

/-- Paints a line and ends it. -/
def paintLine (line : Line) (spans : List Span) : Except BadSlice (List Command) := do
  return (← paintFrom line 0 spans) ++ [.print ['\n']]

/-- Number of a colour on the palette. -/
def Color.number (color : Color) : Nat := Color.palette.findIdx (· == color)

/-- An escape sequence that sets graphics by the given codes. -/
def graphics (codes : String) : List Char := '\x1b' :: '[' :: codes.toList ++ ['m']

/-- The text of a command. -/
def Command.encode : Command → List Char
  | .print text => text
  | .foreground color => graphics ("38;5;" ++ toString color.number)
  | .background color => graphics ("48;5;" ++ toString color.number)
  | .bold => graphics "1"
  | .italic => graphics "3"
  | .underline => graphics "4"
  | .reset => graphics "0"

/-- The text of a list of commands. -/
def encodeCommands (commands : List Command) : List Char := commands.flatMap Command.encode

/-- What a terminal has printed, each character in its style, and the style in force. -/
structure Screen where
  printed : List (Char × Style) := []
  style : Style := .plain
deriving DecidableEq, Repr

/-- A terminal after one more command. -/
def Screen.step (screen : Screen) : Command → Screen
  | .print text => { screen with printed := screen.printed ++ text.map (·, screen.style) }
  | .foreground color => { screen with style := { screen.style with foreground := color } }
  | .background color => { screen with style := { screen.style with background := color } }
  | .bold => { screen with style := { screen.style with bold := true } }
  | .italic => { screen with style := { screen.style with italic := true } }
  | .underline => { screen with style := { screen.style with underline := true } }
  | .reset => { screen with style := .plain }

/-- A terminal after a list of commands. -/
def Screen.run (screen : Screen) (commands : List Command) : Screen :=
  commands.foldl Screen.step screen

end LineLexer
