import LineLexer.Grammar.Xml

/-!
# HTML with scripts

The document is read by the mode of XML, whose state is in the field `html`. After a script start
tag the field `local` holds the state of a script mode, which reads until `</script`.
-/

namespace LineLexer.HtmlGrammar

open Scan

/-- What ends a script. -/
def scriptEnd : List Char := "</script".toList

/-- Begins with a text, up to the case of ASCII letters. -/
def startsWithIgnoringCase (wanted text : List Char) : Bool :=
  eqIgnoringAsciiCase (text.take wanted.length) wanted

/-- Gives back the part of a script token that runs into the end of the script. -/
def backUpBeforeScriptEnd : Scan Unit := do
  let cursor ← get
  let fromStart ← sliceFrom cursor.line cursor.start
  match offsetOf? scriptEnd (fromStart.map asciiLower) with
  | none => return
  | some offset =>
    let endTag := cursor.start + offset
    if 0 < offset ∧ endTag < cursor.pos then
      backUp (← slice cursor.line endTag cursor.pos).length

/-- Whether the token just read completed the start tag of a script. -/
def opensScript (cls : Option TokenClass) (outer : State) : Scan Bool := do
  if cls = some .tag then
    let text ← current
    return text.getLast? == some '>' && !(['/', '>'].isSuffixOf text)
      && (XmlGrammar.openElement? outer).any fun name ↦
        eqIgnoringAsciiCase name.toList "script".toList
  else
    return false

/-- Reads a token of the document; a script start tag makes room for the script's state. -/
def readDocument (html script : Mode) (record : Record) : Scan (Option TokenClass × Record) := do
  match record.state? "html" with
  | none => return (none, record)
  | some outer =>
    let (cls, after) ← html.readToken outer
    let record : Record := record.insert "html" (.state after)
    if ← opensScript cls after then
      let base := (html.suggestIndent after []).getD 0
      return (cls, record.insert "local" (.state (script.start base)))
    else
      return (cls, record)

/-- Reads one token. -/
def readToken (html script : Mode) (record : Record) : Scan (Option TokenClass × Record) := do
  if record.contains "local" then
    if startsWithIgnoringCase scriptEnd (← rest) then
      readDocument html script (record.erase "local")
    else
      match record.state? "local" with
      | none => return (none, record)
      | some inside =>
        let (cls, after) ← script.readToken inside
        backUpBeforeScriptEnd
        return (cls, record.insert "local" (.state after))
  else
    readDocument html script record

/-- Copies the two states of a record, each by its own mode. -/
def copyState (html script : Mode) (state : State) : State :=
  match state with
  | .record fields =>
    let record : Record := fields
    let copied : Record := match record.state? "html" with
      | some outer => Table.empty.insert "html" (.state (html.copy outer))
      | none => Table.empty
    .record (match record.state? "local" with
      | some inside => copied.insert "local" (.state (script.copy inside))
      | none => copied)
  | _ => state

/-- The script at work, or else the document. -/
def delegate (html script : Mode) (state : State) : Option (Delegate Mode) := do
  let record ← state.record?
  match Record.state? record "local" with
  | some inside => return .nested script inside
  | none => return .nested html (← Record.state? record "html")

/-- A line inside a script is the script's, unless it ends the script. -/
def suggestIndent (html script : Mode) : IndentOp := fun state text ↦ do
  let record ← state.record?
  match Record.state? record "local", Record.state? record "html" with
  | some inside, outer =>
    if startsWithIgnoringCase scriptEnd text then
      html.suggestIndent (← outer) text
    else
      script.suggestIndent inside text
  | none, outer => html.suggestIndent (← outer) text

/-- The mode of a document over the modes of markup and scripts. -/
def mode (html script : Mode) : Mode :=
  let token : TokenOp := fun state ↦ do
    match state with
    | .record fields =>
      let (cls, after) ← readToken html script fields
      return (cls, .record after)
    | _ =>
      skipToEnd
      return (none, state)
  ((((((Mode.ofToken token).withStartState fun baseIndent ↦
    .record (.ofList [("html", .state (html.start baseIndent))])).withCopyState
    (copyState html script)).withInner (delegate html script)).withIndent
    (suggestIndent html script)).withProp "blockCommentStart" (.str "<!--")).withProp
    "blockCommentEnd" (.str "-->")

/-- The grammar of HTML, over the registered modes of XML and of scripts. -/
def grammar : Grammar := fun options _ provide ↦
  mode (provide options (.name "xml")) (provide options (.name "text/javascript"))

/-- Registers the grammar, its MIME type and its comments. -/
def register (registry : Registry) : Registry :=
  let registry := registry.defineMode "htmlmixed" ⟨grammar, ["xml", "clike"]⟩
  let registry := registry.defineMime "text/html" (.name "htmlmixed")
  registry.registerHelper commentCategory "htmlmixed" (.comment { block := some ("<!--", "-->") })

end LineLexer.HtmlGrammar
