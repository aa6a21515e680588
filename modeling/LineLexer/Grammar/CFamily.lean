import LineLexer.Registry.Basic

/-!
# The C family

One grammar reads C, C++, Rust and JavaScript. A dialect is its words and a few lexical details;
the options `keywords`, `types` and `atoms` add words to it.
-/

namespace LineLexer.CFamily

open Scan

/-! ## Dialects -/

def cKeywords : List String :=
  ["auto", "break", "case", "const", "continue", "default", "do", "else", "enum", "extern", "for",
    "goto", "if", "inline", "register", "restrict", "return", "sizeof", "static", "struct",
    "switch", "typedef", "union", "volatile", "while"]

def cTypes : List String :=
  ["bool", "char", "double", "float", "int", "long", "short", "signed", "unsigned", "void",
    "size_t", "ptrdiff_t", "int8_t", "int16_t", "int32_t", "int64_t", "uint8_t", "uint16_t",
    "uint32_t", "uint64_t", "FILE"]

def cppKeywords : List String :=
  ["alignas", "alignof", "catch", "class", "constexpr", "const_cast", "decltype", "delete",
    "dynamic_cast", "explicit", "export", "friend", "mutable", "namespace", "new", "noexcept",
    "operator", "private", "protected", "public", "reinterpret_cast", "static_assert",
    "static_cast", "template", "this", "throw", "try", "typeid", "typename", "using", "virtual"]

def rustKeywords : List String :=
  ["as", "async", "await", "break", "const", "continue", "crate", "dyn", "else", "enum", "extern",
    "fn", "for", "if", "impl", "in", "let", "loop", "match", "mod", "move", "mut", "pub", "ref",
    "return", "self", "Self", "static", "struct", "super", "trait", "type", "unsafe", "use",
    "where", "while"]

def rustTypes : List String :=
  ["bool", "char", "str", "u8", "u16", "u32", "u64", "u128", "usize", "i8", "i16", "i32", "i64",
    "i128", "isize", "f32", "f64", "String", "Vec", "Option", "Result", "Box"]

def jsKeywords : List String :=
  ["async", "await", "break", "case", "catch", "class", "const", "continue", "debugger",
    "default", "delete", "do", "else", "export", "extends", "finally", "for", "function", "if",
    "import", "in", "instanceof", "let", "new", "return", "static", "super", "switch", "this",
    "throw", "try", "typeof", "var", "void", "while", "with", "yield"]

/-- The words and the lexical details of a language. -/
structure Dialect where
  keywords : List String
  types : List String
  atoms : List String
  /-- A `#` after leading blanks begins a directive. -/
  preprocessor : Bool
  /-- A single quote begins a character rather than a string. -/
  charLiterals : Bool
  /-- Lifetimes, attributes and macro calls. -/
  rustForms : Bool
  /-- Backquoted strings. -/
  templateStrings : Bool
  /-- Strings go on over the end of a line. -/
  multilineStrings : Bool

namespace Dialect

def c : Dialect where
  keywords := cKeywords
  types := cTypes
  atoms := ["NULL"]
  preprocessor := true
  charLiterals := true
  rustForms := false
  templateStrings := false
  multilineStrings := false

def cpp : Dialect :=
  { c with keywords := cKeywords ++ cppKeywords, atoms := ["true", "false", "nullptr", "NULL"] }

def rust : Dialect where
  keywords := rustKeywords
  types := rustTypes
  atoms := ["true", "false", "None", "Some", "Ok", "Err"]
  preprocessor := false
  charLiterals := true
  rustForms := true
  templateStrings := false
  multilineStrings := true

def javaScript : Dialect where
  keywords := jsKeywords
  types := []
  atoms := ["true", "false", "null", "undefined", "NaN", "Infinity"]
  preprocessor := false
  charLiterals := false
  rustForms := false
  templateStrings := true
  multilineStrings := false

/-- The dialect of a name; C is the default. -/
def ofName : String → Dialect
  | "c++" | "cpp" => cpp
  | "rust" => rust
  | "javascript" | "js" => javaScript
  | _ => c

/-- The dialect of a configuration, with the words it adds. -/
def ofConfig (config : ModeConfig) : Dialect :=
  let named := ofName ((config.str? "dialect").getD "c")
  { named with
    keywords := named.keywords ++ config.strings "keywords"
    types := named.types ++ config.strings "types"
    atoms := named.atoms ++ config.strings "atoms" }

end Dialect

/-! ## Tokens -/

def hexDigit (c : Char) : Bool :=
  c.isDigit || ('a' ≤ c && c ≤ 'f') || ('A' ≤ c && c ≤ 'F')

open Pattern in
/-- A number of any base with whatever suffix. -/
def number : Pattern :=
  let digits := many (.one fun c ↦ isDecimal c || c == '_')
  concat [.textStart,
    choice (concat [char '0', oneOf ['x', 'X'], many1 (.one fun c ↦ hexDigit c || c == '_')])
      [concat [char '0', oneOf ['b', 'B'], many1 (oneOf ['0', '1', '_'])],
        concat [char '0', oneOf ['o', 'O'], many1 (.one fun c ↦ ('0' ≤ c && c ≤ '7') || c == '_')],
        concat [digit, digits, optional (concat [char '.', digit, digits]),
          optional (concat [oneOf ['e', 'E'], optional (oneOf ['+', '-']), many1 digit])]],
    many (.one fun c ↦ c.isAlphanum || c == '_')]

def isOperatorChar (c : Char) : Bool :=
  "+-*/%&|^!<>=~?".toList.contains c

def isWordStart (c : Char) : Bool := isAlphabetic c || c == '_' || c == '$'

def isWordPart (c : Char) : Bool := isAlphanumeric c || c == '_' || c == '$'

/-- The part of a text that belongs to a string, up to and with the first delimiter that no
backslash escapes. Where there is none, also whether the text ends in an escaping backslash. -/
def stringBody (delimiter : Char) : Bool → List Char → List Char × Option Bool
  | escaped, [] => ([], some escaped)
  | escaped, c :: text =>
    if c = delimiter ∧ escaped = false then ([c], none)
    else
      let (body, unfinished) := stringBody delimiter (!escaped && c == '\\') text
      (c :: body, unfinished)

/-- Reads on in a string. -/
def readString (dialect : Dialect) (state : CodeState) (delimiter : Char) :
    Scan (Option TokenClass × CodeState) := do
  let (body, unfinished) := stringBody delimiter false (← rest)
  advance body
  let continues := match unfinished with
    | none => false
    | some escaped => escaped || delimiter == '\x60' || dialect.multilineStrings
  let reading := if continues then .string delimiter else .base
  return (some .string, { state with reading })

/-- Reads on in a block comment. -/
def readBlockComment (state : CodeState) : Scan (Option TokenClass × CodeState) := do
  if ← skipToText ['*', '/'] then
    advance ['*', '/']
    return (some .comment, { state with reading := .base })
  else
    skipToEnd
    return (some .comment, { state with reading := .blockComment })

/-- Reads a word after its first character. -/
def readWord (dialect : Dialect) : Scan TokenClass := do
  let _ ← eatWhile isWordPart
  let word := String.ofList (← current)
  if dialect.keywords.contains word then
    return .keyword
  else if dialect.atoms.contains word then
    return .atom
  else if dialect.types.contains word then
    return .typeName
  else
    let isCall ← if dialect.rustForms then eatChar '!' else pure false
    if isCall then
      return .macroName
    else if (← peek) == some '(' then
      return .function
    else
      return .identifier

/-- Reads a character or a lifetime after its opening quote. -/
def readCharOrLifetime (dialect : Dialect) : Scan TokenClass := do
  if ← eatChar '\\' then
    let _ ← next
    let _ ← eatWhile (· != '\'')
    let _ ← eatChar '\''
    return .char
  if (← next).isSome then
    if ← eatChar '\'' then
      return .char
  if dialect.rustForms then
    let _ ← eatWhile fun c ↦ isAlphanumeric c || c == '_'
    return .lifetime
  return .error

/-- The closer of an opening bracket. -/
def closerOf? : Char → Option Char
  | '(' => some ')'
  | '[' => some ']'
  | '\x7b' => some '\x7d'
  | _ => none

/-- The brackets that stay open after one more bracket. A closer that does not fit is ignored. -/
def stepContexts (contexts : List Char) (bracket : Char) : List Char :=
  match closerOf? bracket, contexts with
  | some closer, _ => closer :: contexts
  | none, expected :: outer => if bracket = expected then outer else contexts
  | none, [] => []

/-- Reads the rest of a token in code after its first character. -/
def readCode (dialect : Dialect) (state : CodeState) (atLineStart : Bool) (c : Char) :
    Scan (Option TokenClass × CodeState) := do
  if c = '"' || (c = '\x60' && dialect.templateStrings) || (c = '\'' && !dialect.charLiterals) then
    readString dialect state c
  else if c = '\'' then
    return (some (← readCharOrLifetime dialect), state)
  else if c = '#' then
    if dialect.preprocessor && atLineStart then
      skipToEnd
      return (some .preprocessor, state)
    else if dialect.rustForms && (← peek).any (['[', '!'].contains ·) then
      if ← skipTo ']' then
        let _ ← next
      else
        skipToEnd
      return (some .attributeName, state)
    else
      return (none, state)
  else if c.isDigit then
    backUp 1
    if !(← eatPattern number) then
      let _ ← eatWhile Char.isDigit
    return (some .number, state)
  else if ['(', '[', '\x7b', ')', ']', '\x7d'].contains c then
    return (some .bracket, { state with contexts := stepContexts state.contexts c })
  else if [';', ',', '.', ':'].contains c then
    return (some .punctuation, state)
  else if isWordStart c then
    return (some (← readWord dialect), state)
  else if c = '/' then
    if ← eatChar '*' then
      readBlockComment state
    else if ← eatChar '/' then
      skipToEnd
      return (some .comment, state)
    else
      let _ ← eatWhile isOperatorChar
      return (some .operator, state)
  else if isOperatorChar c then
    let _ ← eatWhile isOperatorChar
    return (some .operator, state)
  else
    return (none, state)

/-- Reads one token. -/
def readToken (dialect : Dialect) (state : CodeState) : Scan (Option TokenClass × CodeState) := do
  match state.reading with
  | .blockComment => readBlockComment state
  | .string delimiter => readString dialect state delimiter
  | .base =>
    if ← eatSpace then
      return (none, state)
    let cursor ← get
    let before ← slice cursor.line (min cursor.lineStart cursor.pos) cursor.pos
    match ← next with
    | none => return (none, state)
    | some c => readCode dialect state (before.all isWhiteSpace) c

/-- One level for every open bracket, less one for a line that begins with the innermost closer. A
line that begins inside a string or a comment has none of its own. The sum is a number of any size;
machine words give the same as long as a word holds it. -/
def suggestIndent (indentUnit : Nat) (state : CodeState) (text : Line) : Option Nat :=
  if state.reading = .base then
    let closes := match text, state.contexts with
      | first :: _, closer :: _ => first == closer
      | _, _ => false
    let depth := state.contexts.length - (if closes then 1 else 0)
    some (state.baseIndent + depth * indentUnit)
  else none

/-- The mode of a dialect. -/
def ofDialect (dialect : Dialect) (indentUnit : Nat) : Mode :=
  let token : TokenOp := fun state ↦ do
    match state with
    | .code value =>
      let (cls, after) ← readToken dialect value
      return (cls, .code after)
    | _ =>
      skipToEnd
      return (none, state)
  (((((((Mode.ofToken token).withStartState fun baseIndent ↦
    .code ⟨.base, [], baseIndent⟩).withIndent fun state text ↦
    match state with
    | .code value => suggestIndent indentUnit value text
    | _ => none).withProp "lineComment" (.str "//")).withProp "blockCommentStart"
    (.str "/*")).withProp "blockCommentEnd" (.str "*/")).withProp "electricChars"
    (.str "\x7b\x7d")).withProp "fold" (.str "brace")

/-- The grammar of the C family. -/
def grammar : Grammar := fun options config _ ↦
  ofDialect (Dialect.ofConfig config) options.indentUnit

/-- The configuration of a dialect by name. -/
def specOf (dialect : String) : Spec :=
  .config { name := "clike", options := .ofList [("dialect", .str dialect)] }

/-- Registers the grammar, the MIME types of its dialects and its comments. -/
def register (registry : Registry) : Registry :=
  let registry := registry.defineMode "clike" ⟨grammar, []⟩
  let registry := registry.defineMime "text/x-csrc" (specOf "c")
  let registry := registry.defineMime "text/x-c++src" (specOf "c++")
  let registry := registry.defineMime "text/x-rustsrc" (specOf "rust")
  let registry := registry.defineMime "text/javascript" (specOf "javascript")
  let registry := registry.defineMime "application/javascript" (.name "text/javascript")
  registry.registerHelper commentCategory "clike"
    (.comment { line := some "//", block := some ("/*", "*/") })

end LineLexer.CFamily
