import LineLexer.Text.Line

/-!
# Splitting text into lines

A line ends at `\n`, at `\r\n` or at a `\r` that stands alone. A text that ends in a separator has
an empty last line.
-/

namespace LineLexer

/-- Splits `text` into its first line and the lines after it; `splitLines` joins the two. -/
def splitFirstLine : List Char → Line × List Line
  | [] => ([], [])
  | '\r' :: '\n' :: text =>
    let (line, lines) := splitFirstLine text
    ([], line :: lines)
  | c :: text =>
    let (line, lines) := splitFirstLine text
    if c = '\n' ∨ c = '\r' then ([], line :: lines) else (c :: line, lines)

/-- The lines of a text, without their separators. -/
def splitLines (text : List Char) : List Line :=
  let (line, lines) := splitFirstLine text
  line :: lines

end LineLexer
