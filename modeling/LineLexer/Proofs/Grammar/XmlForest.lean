import LineLexer.Grammar.Xml

/-!
# Element trees as they are written

Elements with their attributes and children, and what stands between them: text, references,
comments, character data and instructions. Line breaks may stand wherever blanks, text, values and
bodies have characters; a line feed is one of these characters.
-/

namespace LineLexer.XmlGrammar

/-! ## Parts -/

/-- The name of an element or of an attribute. -/
structure Name where
  text : List Char
  ne_nil : text ≠ []
  chars : ∀ c ∈ text, isNameChar c = true

/-- Blanks inside a tag, line breaks among them. -/
structure Blanks where
  text : List Char
  chars : ∀ c ∈ text, isSpace c = true

/-- An attribute with the blanks before it. -/
structure Attribute where
  gap : Blanks
  gap_ne_nil : gap.text ≠ []
  name : Name
  quote : Char
  quote_mem : quote ∈ ['"', '\'']
  value : List Char
  not_mem_value : quote ∉ value

/-- A start tag or a tag that closes itself, with the blanks before its end. -/
structure Tag where
  name : Name
  attributes : List Attribute
  gap : Blanks

def isTextChar (c : Char) : Bool := c != '<' && c != '&'

structure PlainText where
  text : List Char
  chars : ∀ c ∈ text, isTextChar c = true

/-- The name of an entity. -/
structure Reference where
  name : List Char
  chars : ∀ c ∈ name, isAlphanumeric c = true

/-- What is read up to a terminator. -/
inductive Enclosure where
  | comment
  | characterData
  | instruction
deriving DecidableEq

namespace Enclosure

def opener : Enclosure → List Char
  | comment => ['<', '!', '-', '-']
  | characterData => ['<', '!', '[', 'C', 'D', 'A', 'T', 'A', '[']
  | instruction => ['<', '?']

def terminator : Enclosure → List Char
  | comment => ['-', '-', '>']
  | characterData => [']', ']', '>']
  | instruction => ['?', '>']

def construct : Enclosure → Construct
  | comment => .comment
  | characterData => .characterData
  | instruction => .instruction

def cls : Enclosure → TokenClass
  | comment => .comment
  | characterData => .atom
  | instruction => .marker

end Enclosure

structure Enclosed where
  kind : Enclosure
  body : List Char
  not_terminated : ¬ kind.terminator <:+: body

/-! ## Trees -/

/-- A child without children. -/
inductive Leaf where
  | text (content : PlainText)
  | reference (entity : Reference)
  | enclosed (content : Enclosed)
  | selfClosing (tag : Tag)

/-- Elements and leaves side by side. An element comes with its start tag, its children and the
blanks in its end tag. -/
inductive Forest where
  | nil
  | leaf (first : Leaf) (siblings : Forest)
  | element (tag : Tag) (children : Forest) (gap : Blanks) (siblings : Forest)

def Attribute.text (attr : Attribute) : List Char :=
  attr.gap.text ++ (attr.name.text ++
    '=' :: attr.quote :: (attr.value ++ [attr.quote]))

def Tag.text (tag : Tag) : List Char :=
  '<' :: (tag.name.text ++ (tag.attributes.flatMap Attribute.text ++ tag.gap.text))

def endTag (name : Name) (gap : Blanks) : List Char :=
  '<' :: '/' :: (name.text ++ (gap.text ++ ['>']))

def Leaf.toText : Leaf → List Char
  | .text content => content.text
  | .reference entity => '&' :: (entity.name ++ [';'])
  | .enclosed content => content.kind.opener ++ (content.body ++ content.kind.terminator)
  | .selfClosing tag => tag.text ++ ['/', '>']

def Forest.toText : Forest → List Char
  | .nil => []
  | .leaf first siblings => first.toText ++ siblings.toText
  | .element tag children gap siblings =>
    tag.text ++ '>' :: (children.toText ++ (endTag tag.name gap ++ siblings.toText))

/-! ## Open elements -/

/-- A start tag of the forest ends between `before` and `after`, and these elements are open behind
it, the outermost first. The angle bracket is in neither part. -/
inductive Opens : Forest → List Char → List Name → List Char → Prop where
  | here (tag : Tag) (children : Forest) (gap : Blanks) (siblings : Forest) :
      Opens (.element tag children gap siblings) tag.text [tag.name]
        (children.toText ++ (endTag tag.name gap ++ siblings.toText))
  | inside {tag : Tag} {children : Forest} {gap : Blanks} {siblings : Forest}
      {before after : List Char} {names : List Name} (h : Opens children before names after) :
      Opens (.element tag children gap siblings) (tag.text ++ '>' :: before) (tag.name :: names)
        (after ++ (endTag tag.name gap ++ siblings.toText))
  | afterElement {tag : Tag} {children : Forest} {gap : Blanks} {siblings : Forest}
      {before after : List Char} {names : List Name} (h : Opens siblings before names after) :
      Opens (.element tag children gap siblings)
        (tag.text ++ '>' :: (children.toText ++ (endTag tag.name gap ++ before))) names after
  | afterLeaf {first : Leaf} {siblings : Forest} {before after : List Char} {names : List Name}
      (h : Opens siblings before names after) :
      Opens (.leaf first siblings) (first.toText ++ before) names after

/-- The start tag stands in the text of the forest. -/
theorem Opens.toText_eq {forest : Forest} {before after : List Char} {names : List Name}
    (h : Opens forest before names after) : forest.toText = before ++ '>' :: after := by
  induction h with
  | here => rfl
  | inside _ ih => simp [Forest.toText, ih]
  | afterElement _ ih => simp [Forest.toText, ih]
  | afterLeaf _ ih => simp [Forest.toText, ih]

end LineLexer.XmlGrammar
