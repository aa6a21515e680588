import LineLexer.Registry.Basic

/-!
# TOML

The state is a record: `lhs` tells whether a key is expected rather than a value, `nesting` holds
the open brackets of the value, and `string` the delimiter of a string that is still open.
-/

namespace LineLexer.TomlGrammar

open Scan

/-! ## Patterns -/

open Pattern in
/-- A table header in one or two brackets. -/
def header : Pattern :=
  concat [.textStart, char '[', optional (char '['),
    many1 (.one fun c ↦ c != '[' && c != ']'), char ']', optional (char ']')]

open Pattern in
def bareKey : Pattern :=
  .seq .textStart (many1 (.one fun c ↦ c.isAlphanum || c == '_' || c == '-'))

open Pattern in
def timeOfDay : Pattern :=
  concat [times 2 digit, char ':', times 2 digit, char ':', times 2 digit,
    optional (.seq (char '.') (many1 digit))]

open Pattern in
/-- A date, with or without a time and an offset. -/
def date : Pattern :=
  concat [.textStart, times 4 digit, char '-', times 2 digit, char '-', times 2 digit,
    optional (concat [oneOf ['T', 't', ' '], timeOfDay,
      optional (.alt (oneOf ['Z', 'z'])
        (concat [oneOf ['+', '-'], times 2 digit, char ':', times 2 digit]))])]

def time : Pattern := .seq .textStart timeOfDay

def hexDigit (c : Char) : Bool :=
  c.isDigit || ('a' ≤ c && c ≤ 'f') || ('A' ≤ c && c ≤ 'F')

open Pattern in
def number : Pattern :=
  let digits := many (.one fun c ↦ isDecimal c || c == '_')
  concat [.textStart, optional (oneOf ['+', '-']),
    choice (.seq (text ['0', 'x']) (many1 (.one fun c ↦ hexDigit c || c == '_')))
      [.seq (text ['0', 'o']) (many1 (.one fun c ↦ ('0' ≤ c && c ≤ '7') || c == '_')),
        .seq (text ['0', 'b']) (many1 (oneOf ['0', '1', '_'])),
        text ['i', 'n', 'f'],
        text ['n', 'a', 'n'],
        concat [digit, digits, optional (concat [char '.', digit, digits]),
          optional (concat [oneOf ['e', 'E'], optional (oneOf ['+', '-']), digit, digits])]]]

open Pattern in
def boolean : Pattern :=
  concat [.textStart, .alt (text ['t', 'r', 'u', 'e']) (text ['f', 'a', 'l', 's', 'e']), .wordEdge]

/-! ## Tokens -/

/-- The innermost open bracket. -/
def innermost? (record : Record) : Option String :=
  (record.list "nesting").getLast?.bind Field.str?

/-- Closes the innermost bracket; a key is expected again inside an inline table. -/
def closeNesting (record : Record) : Record :=
  let record : Record := record.insert "nesting" (.list (record.list "nesting").dropLast)
  record.insert "lhs" (.bool (innermost? record == some "\x7b"))

/-- The part of a text that belongs to a quoted string on one line; only double quotes escape. -/
def quotedBody (delimiter : Char) : Bool → List Char → List Char
  | _, [] => []
  | escaped, c :: text =>
    if c = delimiter ∧ escaped = false then [c]
    else c :: quotedBody delimiter (delimiter == '"' && !escaped && c == '\\') text

/-- Reads on in a multi-line string. -/
def readMultiline (record : Record) (delimiter : List Char) :
    Scan (Option TokenClass × Record) := do
  if ← skipToText delimiter then
    advance delimiter
    return (some .string, record.erase "string")
  else
    skipToEnd
    return (some .string, record)

/-- Opens a multi-line string. -/
def openMultiline (record : Record) (delimiter : List Char) :
    Scan (Option TokenClass × Record) :=
  readMultiline (record.insert "string" (.str (String.ofList delimiter))) delimiter

/-- Reads a token where a key is expected. -/
def readKey (record : Record) : Scan (Option TokenClass × Record) := do
  if ← eatChar '=' then
    return (some .operator, record.insert "lhs" (.bool false))
  if ← eatChar '.' then
    return (some .punctuation, record)
  if ← eatChar '\x7d' then
    return (some .bracket, closeNesting record)
  if ← eatPattern bareKey then
    return (some .attributeName, record)
  let _ ← next
  return (some .error, record)

/-- Reads a scalar value that is not quoted. -/
def readScalar : Scan TokenClass := do
  if ← eatPattern date then
    return .atom
  if ← eatPattern time then
    return .atom
  if ← eatPattern boolean then
    return .atom
  if ← eatPattern number then
    return .number
  if !(← eatWhile fun c ↦ !isWhiteSpace c && !([',', ']', '\x7d', '#'].contains c)) then
    let _ ← next
  return .error

/-- Reads a token where a value is expected. -/
def readValue (record : Record) : Scan (Option TokenClass × Record) := do
  match ← peek with
  | none => return (none, record)
  | some c =>
    if c = '[' ∨ c = '\x7b' then
      let _ ← next
      let nested : Record := record.push "nesting" (.str (String.singleton c))
      return (some .bracket, if c = '\x7b' then nested.insert "lhs" (.bool true) else nested)
    else if c = ']' ∨ c = '\x7d' then
      let _ ← next
      return (some .bracket, closeNesting record)
    else if c = ',' then
      let _ ← next
      return (some .punctuation,
        if innermost? record == some "\x7b" then record.insert "lhs" (.bool true) else record)
    else
      return (some (← readScalar), record)

/-- Reads a token outside strings, blanks and comments. -/
def readContent (record : Record) : Scan (Option TokenClass × Record) := do
  let lhs := record.bool "lhs"
  if lhs && (record.list "nesting").isEmpty && (← peek) == some '[' then
    if ← eatPattern header then
      return (some .header, record)
    skipToEnd
    return (some .error, record)
  if ← matchText ['"', '"', '"'] true then
    return ← openMultiline record ['"', '"', '"']
  if ← matchText ['\'', '\'', '\''] true then
    return ← openMultiline record ['\'', '\'', '\'']
  match ← eat fun c ↦ c == '"' || c == '\'' with
  | some delimiter =>
    advance (quotedBody delimiter false (← rest))
    return (some (if lhs then .attributeName else .string), record)
  | none => if lhs then readKey record else readValue record

/-- Reads one token. -/
def readToken (record : Record) : Scan (Option TokenClass × Record) := do
  match record.str? "string" with
  | some delimiter => readMultiline record delimiter.toList
  | none =>
    let fresh := (← get).atStart && (record.list "nesting").isEmpty
    let record := if fresh then record.insert "lhs" (.bool true) else record
    if ← eatSpace then
      return (none, record)
    if ← eatChar '#' then
      skipToEnd
      return (some .comment, record)
    readContent record

/-- The mode of TOML. -/
def mode : Mode :=
  let token : TokenOp := fun state ↦ do
    match state with
    | .record fields =>
      let (cls, after) ← readToken fields
      return (cls, .record after)
    | _ =>
      skipToEnd
      return (none, state)
  ((Mode.ofToken token).withStartState fun _ ↦
    .record (.ofList [("lhs", .bool true)])).withProp "lineComment" (.str "#")

/-- Registers the grammar, its MIME type and its comments. -/
def register (registry : Registry) : Registry :=
  let registry := registry.defineMode "toml" ⟨fun _ _ _ ↦ mode, []⟩
  let registry := registry.defineMime "text/x-toml" (.name "toml")
  registry.registerHelper commentCategory "toml" (.comment { line := some "#" })

end LineLexer.TomlGrammar
