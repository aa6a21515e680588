import LineLexer.Token.Class

/-!
# Styles and spans

Terminal styles over the palette of sixteen colours, and styled byte ranges of a line.
-/

namespace LineLexer

/-- Palette colours; `unset` leaves the terminal's own. -/
inductive Color where
  | unset
  | black
  | red
  | green
  | yellow
  | blue
  | magenta
  | cyan
  | white
  | brightBlack
  | brightRed
  | brightGreen
  | brightYellow
  | brightBlue
  | brightMagenta
  | brightCyan
  | brightWhite
deriving DecidableEq, Repr

namespace Color

/-- The palette in the order of its numbers, from zero. -/
def palette : List Color :=
  [black, red, green, yellow, blue, magenta, cyan, white, brightBlack, brightRed, brightGreen,
    brightYellow, brightBlue, brightMagenta, brightCyan, brightWhite]

def name : Color → String
  | unset => "Default"
  | black => "Black"
  | red => "Red"
  | green => "Green"
  | yellow => "Yellow"
  | blue => "Blue"
  | magenta => "Magenta"
  | cyan => "Cyan"
  | white => "White"
  | brightBlack => "BrightBlack"
  | brightRed => "BrightRed"
  | brightGreen => "BrightGreen"
  | brightYellow => "BrightYellow"
  | brightBlue => "BrightBlue"
  | brightMagenta => "BrightMagenta"
  | brightCyan => "BrightCyan"
  | brightWhite => "BrightWhite"

def ofName? (name : String) : Option Color :=
  (unset :: palette).find? (·.name == name)

end Color

structure Style where
  foreground : Color := .unset
  background : Color := .unset
  bold : Bool := false
  italic : Bool := false
  underline : Bool := false
deriving DecidableEq, Repr

/-- The style that changes nothing. -/
def Style.plain : Style := {}

/-- The style a class is shown in. -/
def TokenClass.style : TokenClass → Style
  | .comment => { foreground := .brightBlack, italic := true }
  | .string | .char => { foreground := .green }
  | .number => { foreground := .cyan }
  | .keyword => { foreground := .magenta, bold := true }
  | .typeName => { foreground := .yellow }
  | .function => { foreground := .blue }
  | .identifier => .plain
  | .operator => { foreground := .brightWhite }
  | .punctuation | .bracket => .plain
  | .preprocessor => { foreground := .brightMagenta }
  | .macroName => { foreground := .brightCyan }
  | .atom => { foreground := .brightRed }
  | .tag => { foreground := .blue, bold := true }
  | .attributeName => { foreground := .brightBlue }
  | .header => { foreground := .yellow, bold := true }
  | .lifetime => { foreground := .brightMagenta }
  | .marker => { foreground := .brightBlack }
  | .inserted => { foreground := .brightGreen }
  | .deleted => { foreground := .brightRed }
  | .error => { foreground := .red, underline := true }

/-- A token: the byte range it covers and its class, if it has one. -/
structure Token where
  start : Nat
  stop : Nat
  cls : Option TokenClass
deriving DecidableEq, Repr

/-- A byte range of a line with the style it is shown in. -/
structure Span where
  start : Nat
  stop : Nat
  cls : Option TokenClass
  style : Style
deriving DecidableEq, Repr

namespace Span

/-- The span of a byte range in the style of its class. -/
def ofClass (start stop : Nat) (cls : Option TokenClass) : Span :=
  ⟨start, stop, cls, (cls.map TokenClass.style).getD .plain⟩

def contains (span : Span) (offset : Nat) : Bool :=
  span.start ≤ offset && offset < span.stop

def size (span : Span) : Nat := span.stop - span.start

def isEmpty (span : Span) : Bool := span.stop ≤ span.start

def token (span : Span) : Token := ⟨span.start, span.stop, span.cls⟩

end Span

end LineLexer
