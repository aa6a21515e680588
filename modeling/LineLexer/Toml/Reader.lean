import LineLexer.Toml.Scalar

/-!
# Reading TOML

A reader for whole documents. It tells valid documents from invalid ones and gives the values of
the valid ones; what is wrong with an invalid one is not said.
-/

namespace LineLexer.Toml

/-- Reads from the front of a text. -/
abbrev Parse := StateT (List Char) Option

namespace Parse

def peek? : Parse (Option Char) := do
  return (← get).head?

/-- Takes a given text or fails. -/
def exactly (text : List Char) : Parse Unit := do
  let rest ← get
  guard (text.isPrefixOf rest)
  set (rest.drop text.length)

/-- Takes a given text if it comes next. -/
def optionally (text : List Char) : Parse Bool := do
  let rest ← get
  if text.isPrefixOf rest then
    set (rest.drop text.length)
    return true
  else
    return false

def takeWhile (accepts : Char → Bool) : Parse (List Char) := do
  let rest ← get
  set (rest.dropWhile accepts)
  return rest.takeWhile accepts

end Parse

open Parse

/-! ## Blanks, comments and line ends -/

def isBlank (c : Char) : Bool := c == ' ' || c == '\t'

def blanks : Parse Unit := do
  let _ ← takeWhile isBlank

/-- A character of a comment: no control but the tab. -/
def isCommentChar (c : Char) : Bool :=
  c == '\t' || (' ' ≤ c && c != '\x7f')

def newline : Parse Bool := do
  if ← optionally ['\n'] then
    return true
  else
    optionally ['\r', '\n']

def comment : Parse Unit := do
  if ← optionally ['#'] then
    let _ ← takeWhile isCommentChar

/-- Blanks and a comment, then the end of the line or of the text. -/
def lineEnd : Parse Unit := do
  blanks
  comment
  if !(← newline) then
    guard (← get).isEmpty

/-- Blanks, comments and line ends inside an array. -/
def gap : Nat → Parse Unit
  | 0 => failure
  | fuel + 1 => do
    blanks
    comment
    if ← newline then
      gap fuel

/-! ## Strings -/

def isBasicChar (c : Char) : Bool :=
  c == '\t' || (' ' ≤ c && c != '"' && c != '\\' && c != '\x7f')

def isLiteralChar (c : Char) : Bool :=
  c == '\t' || (' ' ≤ c && c != '\'' && c != '\x7f')

/-- The character of a hexadecimal code; surrogates and numbers beyond the last code point have
none. -/
def codeChar? (digits : List Char) : Option Char :=
  let code := digitsValue 16 digits
  if digits.all isHexDigit ∧ (code < 0xd800 ∨ (0xdfff < code ∧ code < 0x110000)) then
    some (Char.ofNat code)
  else none

/-- The character of a one-letter escape. -/
def escape? : Char → Option Char
  | 'b' => some '\x08'
  | 't' => some '\t'
  | 'n' => some '\n'
  | 'f' => some '\x0c'
  | 'r' => some '\r'
  | '"' => some '"'
  | '\\' => some '\\'
  | _ => none

/-- The content of a string in double quotes after the opening one, and the text after the closing
one. -/
def basicBody : List Char → Option (List Char × List Char)
  | [] => none
  | '"' :: rest => some ([], rest)
  | '\\' :: 'u' :: a :: b :: c :: d :: rest => do
    let code ← codeChar? [a, b, c, d]
    let (body, rest) ← basicBody rest
    return (code :: body, rest)
  | '\\' :: 'U' :: a :: b :: c :: d :: e :: f :: g :: h :: rest => do
    let code ← codeChar? [a, b, c, d, e, f, g, h]
    let (body, rest) ← basicBody rest
    return (code :: body, rest)
  | '\\' :: c :: rest => do
    let code ← escape? c
    let (body, rest) ← basicBody rest
    return (code :: body, rest)
  | c :: rest => do
    guard (isBasicChar c)
    let (body, rest) ← basicBody rest
    return (c :: body, rest)

/-- The content of a string in single quotes after the opening one. -/
def literalBody : List Char → Option (List Char × List Char)
  | [] => none
  | '\'' :: rest => some ([], rest)
  | c :: rest => do
    guard (isLiteralChar c)
    let (body, rest) ← literalBody rest
    return (c :: body, rest)

/-- A line end after blanks. -/
def endsLine (text : List Char) : Bool :=
  let rest := text.dropWhile isBlank
  ['\n'].isPrefixOf rest || ['\r', '\n'].isPrefixOf rest

/-- The content of a string in three double quotes after the opening ones. A backslash at the end of
a line takes away the blanks and line ends after it, which `skipping` stands for. Up to two quotes
may stand right before the closing ones. -/
def multilineBody (skipping : Bool) : List Char → Option (List Char × List Char)
  | [] => none
  | '"' :: '"' :: '"' :: '"' :: '"' :: rest => some (['"', '"'], rest)
  | '"' :: '"' :: '"' :: '"' :: rest => some (['"'], rest)
  | '"' :: '"' :: '"' :: rest => some ([], rest)
  | '\r' :: '\n' :: rest => do
    let (body, after) ← multilineBody skipping rest
    return (if skipping then body else '\n' :: body, after)
  | '\\' :: 'u' :: a :: b :: c :: d :: rest => do
    let code ← codeChar? [a, b, c, d]
    let (body, after) ← multilineBody false rest
    return (code :: body, after)
  | '\\' :: 'U' :: a :: b :: c :: d :: e :: f :: g :: h :: rest => do
    let code ← codeChar? [a, b, c, d, e, f, g, h]
    let (body, after) ← multilineBody false rest
    return (code :: body, after)
  | '\\' :: c :: rest =>
    if endsLine (c :: rest) then
      multilineBody true (c :: rest)
    else do
      let code ← escape? c
      let (body, after) ← multilineBody false rest
      return (code :: body, after)
  | c :: rest =>
    if skipping && (isBlank c || c == '\n') then multilineBody true rest
    else do
      guard (c == '\n' || c == '"' || isBasicChar c)
      let (body, after) ← multilineBody false rest
      return (c :: body, after)

/-- The content of a string in three single quotes after the opening ones. -/
def multilineLiteralBody : List Char → Option (List Char × List Char)
  | [] => none
  | '\'' :: '\'' :: '\'' :: '\'' :: '\'' :: rest => some (['\'', '\''], rest)
  | '\'' :: '\'' :: '\'' :: '\'' :: rest => some (['\''], rest)
  | '\'' :: '\'' :: '\'' :: rest => some ([], rest)
  | '\r' :: '\n' :: rest => do
    let (body, after) ← multilineLiteralBody rest
    return ('\n' :: body, after)
  | c :: rest => do
    guard (c == '\n' || c == '\'' || isLiteralChar c)
    let (body, after) ← multilineLiteralBody rest
    return (c :: body, after)

/-- Reads the rest of a string by the function of its kind. -/
def stringBody (body : List Char → Option (List Char × List Char)) : Parse String := do
  let (content, rest) ← body (← get)
  set rest
  return String.ofList content

/-- A string of one of the four kinds; the first line end of a multi-line string is not its own. -/
def string : Parse String := do
  if ← optionally ['"', '"', '"'] then
    let _ ← newline
    stringBody (multilineBody false)
  else if ← optionally ['\'', '\'', '\''] then
    let _ ← newline
    stringBody multilineLiteralBody
  else if ← optionally ['"'] then
    stringBody basicBody
  else
    exactly ['\'']
    stringBody literalBody

/-! ## Keys -/

def simpleKey : Parse String := do
  if ← optionally ['"'] then
    stringBody basicBody
  else if ← optionally ['\''] then
    stringBody literalBody
  else
    let bare ← takeWhile fun c ↦ c.isAlphanum || c == '_' || c == '-'
    guard !bare.isEmpty
    return String.ofList bare

/-- The parts of a dotted key after the first. -/
def keyParts : Nat → Parse (List String)
  | 0 => failure
  | fuel + 1 => do
    blanks
    if ← optionally ['.'] then
      blanks
      let part ← simpleKey
      return part :: (← keyParts fuel)
    else
      return []

/-- Nesting of values and of keys goes less deep than this. -/
def nestingLimit : Nat := 80

/-- A dotted key: the path to its table and its last part. -/
def key : Parse (List String × String) := do
  blanks
  let first ← simpleKey
  let parts := first :: (← keyParts ((← get).length + 1))
  guard (parts.length < nestingLimit)
  return (parts.dropLast, parts.getLast?.getD first)

/-! ## Values -/

def isScalarChar (c : Char) : Bool :=
  c.isAlphanum || ['+', '-', '_', '.', ':'].contains c

/-- A scalar that is no string. A date may be parted from its time by a blank. -/
def bareScalar : Parse Value := do
  let lexeme ← takeWhile isScalarChar
  match ← get with
  | ' ' :: rest =>
    let longer := lexeme ++ ' ' :: rest.takeWhile isScalarChar
    match datetime? longer with
    | some value =>
      set (rest.dropWhile isScalarChar)
      return value
    | none => scalar? lexeme
  | _ => scalar? lexeme

/-- The values of an array after its opening bracket. -/
def arrayItems (item : Parse Value) : Nat → Parse (List Value)
  | 0 => failure
  | fuel + 1 => do
    gap ((← get).length + 1)
    if ← optionally [']'] then
      return []
    let first ← item
    gap ((← get).length + 1)
    if ← optionally [','] then
      return first :: (← arrayItems item fuel)
    else
      exactly [']']
      return [first]

/-- The pairs of an inline table, of which there is at least one. -/
def inlinePairs (item : Parse Value) : Nat → Parse (List (List String × String × Value))
  | 0 => failure
  | fuel + 1 => do
    let (path, last) ← key
    blanks
    exactly ['=']
    blanks
    let value ← item
    blanks
    if ← optionally [','] then
      return (path, last, value) :: (← inlinePairs item fuel)
    else
      exactly ['\x7d']
      return [(path, last, value)]

/-- A value whose arrays and inline tables hold values read by `item`; without it there are none. -/
def valueOver (item : Option (Parse Value)) : Parse Value := do
  match ← peek?, item with
  | some '"', _ | some '\'', _ => return .str (← string)
  | some '[', some item =>
    exactly ['[']
    return .array (← arrayItems item ((← get).length + 1))
  | some '\x7b', some item =>
    exactly ['\x7b']
    blanks
    if ← optionally ['\x7d'] then
      return .table .braces []
    let pairs ← inlinePairs item ((← get).length + 1)
    return .table .braces (← Entries.definePairs pairs [])
  | _, _ => bareScalar

/-- A value with arrays and inline tables at most `depth` deep. -/
def value : Nat → Parse Value
  | 0 => valueOver none
  | depth + 1 => valueOver (some (value depth))

/-! ## Documents -/

/-- A line of a document that is not blank. -/
inductive Statement where
  | pair (path : List String) (key : String) (value : Value)
  | header (path : List String) (key : String)
  | listHeader (path : List String) (key : String)

def statement : Parse Statement := do
  if ← optionally ['[', '['] then
    let (path, last) ← key
    blanks
    exactly [']', ']']
    lineEnd
    return .listHeader path last
  else if ← optionally ['['] then
    let (path, last) ← key
    blanks
    exactly [']']
    lineEnd
    return .header path last
  else
    let (path, last) ← key
    blanks
    exactly ['=']
    blanks
    let found ← value (nestingLimit - 1)
    lineEnd
    return .pair path last found

def statements : Nat → Parse (List Statement)
  | 0 => failure
  | fuel + 1 => do
    gap ((← get).length + 1)
    if (← get).isEmpty then
      return []
    let first ← statement
    return first :: (← statements fuel)

/-- The pairs up to the next header, and the statements from it on. -/
def splitPairs : List Statement → List (List String × String × Value) × List Statement
  | .pair path key value :: rest =>
    let (pairs, others) := splitPairs rest
    ((path, key, value) :: pairs, others)
  | rest => ([], rest)

/-- Adds the sections of a document one after the other. -/
def addSections : Nat → List Statement → Entries → Option Entries
  | 0, _, _ => none
  | fuel + 1, remaining, entries =>
    match remaining with
    | [] => some entries
    | .pair path key value :: rest => do
      let (pairs, others) := splitPairs (.pair path key value :: rest)
      addSections fuel others (← Entries.definePairs pairs entries)
    | .header path key :: rest => do
      let (pairs, others) := splitPairs rest
      addSections fuel others (← Entries.defineTable path key pairs entries)
    | .listHeader path key :: rest => do
      let (pairs, others) := splitPairs rest
      addSections fuel others (← Entries.defineListed path key pairs entries)

/-- The entries of a document, if it is valid. A byte order mark may stand before it. -/
def read? (text : List Char) : Option Entries := do
  let text := match text with
    | '\ufeff' :: rest => rest
    | _ => text
  let (found, _) ← (statements (text.length + 1)).run text
  addSections (found.length + 1) found []

end LineLexer.Toml
