import LineLexer.Registry.Basic

/-!
# XML

The state is a record: `tokenize` names the construct that the next token continues, `tagStack`
holds the names of the open elements, `tagName` and `closing` describe the tag being read, and
`quote` is the delimiter of an attribute value that is still open.
-/

namespace LineLexer.XmlGrammar

open Scan

/-- What the next token continues. -/
inductive Construct where
  | text
  | tag
  | value
  | comment
  | characterData
  | instruction
deriving DecidableEq, Repr

namespace Construct

def name : Construct → String
  | text => "text"
  | tag => "tag"
  | value => "attr"
  | comment => "comment"
  | characterData => "cdata"
  | instruction => "pi"

/-- The construct of a state; anything unknown is text. -/
def ofRecord (record : Record) : Construct :=
  match record.str? "tokenize" with
  | some "tag" => tag
  | some "attr" => value
  | some "comment" => comment
  | some "cdata" => characterData
  | some "pi" => instruction
  | _ => text

end Construct

def setConstruct (record : Record) (construct : Construct) : Record :=
  record.insert "tokenize" (.str construct.name)

def isNameChar (c : Char) : Bool :=
  isAlphanumeric c || ['_', '-', ':', '.'].contains c

/-- Reads to the end of a construct; where it ends, text goes on. -/
def readUntil (record : Record) (terminator : List Char) (cls : TokenClass) :
    Scan (Option TokenClass × Record) := do
  if ← skipToText terminator then
    advance terminator
    return (some cls, setConstruct record .text)
  else
    skipToEnd
    return (some cls, record)

/-- Moves past the next occurrence of a character, or to the end of the line. -/
def skipPast (c : Char) : Scan Unit := do
  if ← skipTo c then
    let _ ← next
  else
    skipToEnd

def readComment (record : Record) : Scan (Option TokenClass × Record) :=
  readUntil record ['-', '-', '>'] .comment

def readCharacterData (record : Record) : Scan (Option TokenClass × Record) :=
  readUntil record [']', ']', '>'] .atom

def readInstruction (record : Record) : Scan (Option TokenClass × Record) :=
  readUntil record ['?', '>'] .marker

/-- Reads markup after its opening angle bracket. -/
def readMarkup (record : Record) : Scan (Option TokenClass × Record) := do
  if ← matchText ['!', '-', '-'] true then
    return ← readComment (setConstruct record .comment)
  if ← matchText "![CDATA[".toList true then
    return ← readCharacterData (setConstruct record .characterData)
  if ← eatChar '?' then
    return ← readInstruction (setConstruct record .instruction)
  if ← eatChar '!' then
    skipPast '>'
    return (some .marker, record)
  let closing ← eatChar '/'
  let name := (← rest).takeWhile isNameChar
  if name.isEmpty then
    return (some .error, record)
  advance name
  let named : Record := record.insert "tagName" (.str (String.ofList name))
  let named : Record := named.insert "closing" (.bool closing)
  return (some .tag, setConstruct named .tag)

/-- Reads a token of text content. -/
def readText (record : Record) : Scan (Option TokenClass × Record) := do
  if ← eatChar '<' then
    return ← readMarkup record
  if ← eatChar '&' then
    let _ ← eatWhile fun c ↦ isAlphanumeric c || c == '#'
    let closed ← eatChar ';'
    return (some (if closed then .atom else .error), record)
  let _ ← eatWhile fun c ↦ c != '<' && c != '&'
  return (none, record)

/-- Leaves a tag. -/
def finishTag (record : Record) : Record :=
  let record : Record := record.erase "tagName"
  setConstruct (record.erase "closing") .text

/-- The open elements without the last one of a name and those inside it. -/
def closeElement (name : String) (stack : List Field) : List Field :=
  match (stack.reverse.dropWhile fun item ↦ item.str? != some name) with
  | [] => stack
  | _ :: outer => outer.reverse

/-- Completes a tag: a start tag opens its element, an end tag closes it. -/
def completeTag (record : Record) : Record :=
  let stack := record.list "tagStack"
  let moved : Record := match record.str? "tagName" with
    | none => record
    | some name =>
      if record.bool "closing" then record.insert "tagStack" (.list (closeElement name stack))
      else record.insert "tagStack" (.list (stack ++ [.str name]))
  finishTag moved

/-- Reads a token inside a tag. -/
def readTag (record : Record) : Scan (Option TokenClass × Record) := do
  if ← eatSpace then
    return (none, record)
  if ← matchText ['/', '>'] true then
    return (some .tag, finishTag record)
  if ← eatChar '>' then
    return (some .tag, completeTag record)
  if ← eatChar '=' then
    return (some .operator, record)
  match ← eat fun c ↦ c == '"' || c == '\'' with
  | some delimiter =>
    if ← skipTo delimiter then
      let _ ← next
      return (some .string, record)
    else
      skipToEnd
      let quoted : Record := record.insert "quote" (.str (String.singleton delimiter))
      return (some .string, setConstruct quoted .value)
  | none =>
    if ← eatWhile isNameChar then
      return (some .attributeName, record)
    let _ ← next
    return (some .error, record)

/-- Reads on in an attribute value left open at the end of a line. -/
def readValue (record : Record) : Scan (Option TokenClass × Record) := do
  let delimiter := ((record.str? "quote").bind (·.toList.head?)).getD '"'
  if ← skipTo delimiter then
    let _ ← next
    let closed : Record := record.erase "quote"
    return (some .string, setConstruct closed .tag)
  else
    skipToEnd
    return (some .string, record)

/-- Reads one token. -/
def readToken (record : Record) : Scan (Option TokenClass × Record) :=
  match Construct.ofRecord record with
  | .comment => readComment record
  | .characterData => readCharacterData record
  | .instruction => readInstruction record
  | .value => readValue record
  | .tag => readTag record
  | .text => readText record

/-- The innermost open element of a state in text content. -/
def openElement? (state : State) : Option String := do
  let record ← state.record?
  guard (Construct.ofRecord record = .text)
  (← (Record.list record "tagStack").getLast?).str?

/-- One level for every open element; an end tag stands one level further out, and the attributes
of an unfinished tag one level further in. The sum is a number of any size; machine words give the
same as long as a word holds it. -/
def suggestIndent (indentUnit : Nat) (record : Record) (text : Line) : Option Nat :=
  let base := (record.int "baseIndent").toNat
  let depth := (record.list "tagStack").length
  match Construct.ofRecord record with
  | .text =>
    if ['<', '/'].isPrefixOf text then some (base + (depth - 1) * indentUnit)
    else some (base + depth * indentUnit)
  | .tag => some (base + (depth + 1) * indentUnit)
  | _ => none

/-- The mode of XML. The field `baseIndent` keeps the base indentation as it is; a signed word of 64
bits does so for those below `2 ^ 63`. -/
def mode (indentUnit : Nat) : Mode :=
  let token : TokenOp := fun state ↦ do
    match state with
    | .record fields =>
      let (cls, after) ← readToken fields
      return (cls, .record after)
    | _ =>
      skipToEnd
      return (none, state)
  (((((Mode.ofToken token).withStartState fun baseIndent ↦
    .record (.ofList [("tokenize", .str Construct.text.name),
      ("baseIndent", .int baseIndent)])).withIndent fun state text ↦
    state.record?.bind (suggestIndent indentUnit · text)).withProp "blockCommentStart"
    (.str "<!--")).withProp "blockCommentEnd" (.str "-->")).withProp "fold" (.str "xml")

/-- Registers the grammar, its MIME types and its comments. -/
def register (registry : Registry) : Registry :=
  let registry := registry.defineMode "xml" ⟨fun options _ _ ↦ mode options.indentUnit, []⟩
  let registry := registry.defineMime "application/xml" (.name "xml")
  let registry := registry.defineMime "text/xml" (.name "xml")
  registry.registerHelper commentCategory "xml" (.comment { block := some ("<!--", "-->") })

end LineLexer.XmlGrammar
