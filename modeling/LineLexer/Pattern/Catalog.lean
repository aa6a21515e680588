import LineLexer.Pattern.Basic

/-!
# A catalogue of patterns

Named patterns that a host can ask for by name.
-/

namespace LineLexer.Pattern

/-- Letters of a word up to case; the long s is a form of s. -/
def caselessLetter (c : Char) : Pattern :=
  .one fun d ↦ asciiLower d == c || (c == 's' && d == 'ſ')

def anyChar : Pattern := .one (· != '\n')

def asciiDigit : Pattern := .one Char.isDigit

/-- The pattern of a name. -/
def named? : String → Option Pattern
  | "digits" => some (many1 digit)
  | "decimal" => some (concat [.capture 1 (many1 digit), char '.', .capture 2 (many1 digit)])
  | "word" => some (many1 (.one isPatternWord))
  | "anchored_word" => some (concat [.textStart, .one fun c ↦ c.isAlpha || c == '_',
      many (.one fun c ↦ c.isAlphanum || c == '_')])
  | "opt_sign" => some (concat [optional (.capture 1 (oneOf ['+', '-'])),
      .capture 2 (many1 asciiDigit)])
  | "maybe_empty" => some (many (char 'x'))
  | "alt" => some (.alt (text ['f', 'o', 'o']) (text ['f', 'o', 'o', 'b', 'a', 'r']))
  | "lazy_quote" => some (concat [char '"', .capture 1 (.star true anyChar), char '"'])
  | "to_end" => some (.seq (many anyChar) .textEnd)
  | "word_boundary" => some (.seq (text ['e', 'n', 'd']) .wordEdge)
  | "line_start" => some (.seq .textStart (char 'a'))
  | "ci_select" => some (concat ("select".toList.map caselessLetter))
  | _ => none

end LineLexer.Pattern
