import LineLexer.Text.Line

/-!
# White space

Scanning has its own set of blanks: it takes in the byte order mark and leaves out the next-line
control. The standard's white space is used where text is trimmed.
-/

namespace LineLexer

/-- Blanks inside a line, as scanning sees them. -/
def isSpace (c : Char) : Bool :=
  c = '\t' || c = '\n' || c = '\x0b' || c = '\x0c' || c = '\r' || c = ' '
    || c = '\u00a0' || c = '\u1680' || ('\u2000' ≤ c && c ≤ '\u200a')
    || c = '\u2028' || c = '\u2029' || c = '\u202f' || c = '\u205f' || c = '\u3000' || c = '\ufeff'

/-- The standard's white space. -/
def isWhiteSpace (c : Char) : Bool :=
  ('\t' ≤ c && c ≤ '\r') || c = ' ' || c = '\u0085'
    || c = '\u00a0' || c = '\u1680' || ('\u2000' ≤ c && c ≤ '\u200a')
    || c = '\u2028' || c = '\u2029' || c = '\u202f' || c = '\u205f' || c = '\u3000'

/-- Byte offset of the first character that is no blank, or the length of the text. -/
def firstNonSpace (text : List Char) : Nat :=
  byteLength (text.takeWhile isSpace)

def trimStart (text : List Char) : List Char :=
  text.dropWhile isWhiteSpace

end LineLexer
