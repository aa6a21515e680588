import LineLexer.Proofs.Grammar.Tags
import LineLexer.Proofs.Highlight.Visited

/-!
# The record of XML

The state of XML is a record without types, edited by every part of the grammar. Each construct has
its fields: a tag its name and whether it closes, an open value its quote besides, all others none
of these. The edits are few, and each leads from the shape of one construct to the shape of another;
a call makes one of them or none.
-/

namespace LineLexer

/-- A field that is there exactly when it should be, and of its kind then. -/
inductive FieldWhen (expected : Prop) (kind : Field → Prop) : Option Field → Prop where
  | present {field : Field} (hexpected : expected) (hkind : kind field) :
      FieldWhen expected kind (some field)
  | absent (hexpected : ¬ expected) : FieldWhen expected kind none

theorem FieldWhen.congr {expected other : Prop} {kind : Field → Prop} {found : Option Field}
    (h : FieldWhen expected kind found) (hiff : expected ↔ other) : FieldWhen other kind found := by
  cases h with
  | present hexpected hkind => exact .present (hiff.1 hexpected) hkind
  | absent hexpected => exact .absent (mt hiff.2 hexpected)

/-- A field that is expected is there. -/
theorem FieldWhen.exists_eq {expected : Prop} {kind : Field → Prop} {found : Option Field}
    (h : FieldWhen expected kind found) (hexpected : expected) :
    ∃ field, found = some field ∧ kind field := by
  cases h with
  | present _ hkind => exact ⟨_, rfl, hkind⟩
  | absent habsent => exact absurd hexpected habsent

namespace XmlGrammar

open Scan

/-! ## Fields -/

def IsTagName (field : Field) : Prop :=
  ∃ name : List Char, field = .str (String.ofList name) ∧ name ≠ [] ∧
    ∀ c ∈ name, isNameChar c = true

def IsFlag (field : Field) : Prop := ∃ value, field = .bool value

def IsQuote (field : Field) : Prop :=
  ∃ delimiter, field = .str (String.singleton delimiter) ∧ (delimiter = '"' ∨ delimiter = '\'')

def IsElements (field : Field) : Prop :=
  ∃ names : List String, field = .list (names.map .str) ∧ ∀ name ∈ names, name ≠ ""

def Construct.InsideTag (construct : Construct) : Prop := construct = .tag ∨ construct = .value

instance (construct : Construct) : Decidable construct.InsideTag :=
  inferInstanceAs (Decidable (_ ∨ _))

/-- The fields of a construct, with the open elements and the indentation that the text began
with. -/
structure FieldsOf (baseIndent : Nat) (construct : Construct) (record : Record) : Prop where
  tagName : FieldWhen construct.InsideTag IsTagName (record.find? "tagName")
  closing : FieldWhen construct.InsideTag IsFlag (record.find? "closing")
  quote : FieldWhen (construct = .value) IsQuote (record.find? "quote")
  tagStack : ∀ field ∈ record.find? "tagStack", IsElements field
  baseIndent : record.find? "baseIndent" = some (.int baseIndent)

/-- The record of a construct: it has the construct's name and fields. -/
structure Shaped (baseIndent : Nat) (construct : Construct) (record : Record) : Prop extends
    FieldsOf baseIndent construct record where
  tokenize : record.find? "tokenize" = some (.str construct.name)

variable {baseIndent : Nat} {construct next : Construct} {record : Record}

/-- Fields that fit a construct, with its name beside them, are of its shape. -/
theorem shaped_setConstruct (h : FieldsOf baseIndent construct record) :
    Shaped baseIndent construct (setConstruct record construct) where
  tokenize := by rw [setConstruct, Table.find?_insert, if_pos rfl]
  tagName := by simpa [find?_setConstruct] using h.tagName
  closing := by simpa [find?_setConstruct] using h.closing
  quote := by simpa [find?_setConstruct] using h.quote
  tagStack := by simpa [find?_setConstruct] using h.tagStack
  baseIndent := by simpa [find?_setConstruct] using h.baseIndent

/-! ## Edits -/

namespace Shaped

theorem ofRecord_eq (h : Shaped baseIndent construct record) :
    Construct.ofRecord record = construct := by
  rw [Construct.ofRecord, Record.str?, h.tokenize]
  cases construct <;> rfl

/-- Outside of tags the construct changes freely. -/
theorem outside (h : Shaped baseIndent construct record) (hconstruct : ¬ construct.InsideTag)
    (hnext : ¬ next.InsideTag) : Shaped baseIndent next (setConstruct record next) := by
  have hvalue : construct = .value ↔ next = .value :=
    iff_of_false (fun h ↦ hconstruct (.inr h)) fun h ↦ hnext (.inr h)
  have hinside := iff_of_false hconstruct hnext
  exact shaped_setConstruct
    { h with
      tagName := h.tagName.congr hinside
      closing := h.closing.congr hinside
      quote := h.quote.congr hvalue }

theorem nameTag (h : Shaped baseIndent .text record) {name : List Char} (hname : name ≠ [])
    (hchars : ∀ c ∈ name, isNameChar c = true) (closing : Bool) :
    Shaped baseIndent .tag (nameTag record name closing) := by
  have htagName : FieldWhen Construct.tag.InsideTag IsTagName (some (.str (String.ofList name))) :=
    .present (.inl rfl) ⟨name, rfl, hname, hchars⟩
  have hclosing : FieldWhen Construct.tag.InsideTag IsFlag (some (.bool closing)) :=
    .present (.inl rfl) ⟨closing, rfl⟩
  have hquote : FieldWhen (Construct.tag = .value) IsQuote (record.find? "quote") :=
    h.quote.congr (by decide)
  refine shaped_setConstruct ⟨?_, ?_, ?_, ?_, ?_⟩
  · simpa [Table.find?_insert] using htagName
  · simpa [Table.find?_insert] using hclosing
  · simpa [Table.find?_insert] using hquote
  · simpa [Table.find?_insert] using h.tagStack
  · simpa [Table.find?_insert] using h.baseIndent

theorem finishTag (h : Shaped baseIndent .tag record) :
    Shaped baseIndent .text (finishTag record) := by
  have habsent {kind : Field → Prop} : FieldWhen Construct.text.InsideTag kind none :=
    .absent (by decide)
  have hquote : FieldWhen (Construct.text = .value) IsQuote (record.find? "quote") :=
    h.quote.congr (by decide)
  refine shaped_setConstruct ⟨?_, ?_, ?_, ?_, ?_⟩
  · simpa [Table.find?_erase] using habsent
  · simpa [Table.find?_erase] using habsent
  · simpa [Table.find?_erase] using hquote
  · simpa [Table.find?_erase] using h.tagStack
  · simpa [Table.find?_erase] using h.baseIndent

theorem insert_tagStack (h : Shaped baseIndent construct record) {elements : List Field}
    (helements : IsElements (.list elements)) :
    Shaped baseIndent construct (record.insert "tagStack" (.list elements)) where
  tokenize := by simpa [Table.find?_insert] using h.tokenize
  tagName := by simpa [Table.find?_insert] using h.tagName
  closing := by simpa [Table.find?_insert] using h.closing
  quote := by simpa [Table.find?_insert] using h.quote
  tagStack := by simpa [Table.find?_insert] using helements
  baseIndent := by simpa [Table.find?_insert] using h.baseIndent

theorem isElements_list (h : Shaped baseIndent construct record) :
    IsElements (.list (record.list "tagStack")) := by
  rw [Record.list]
  cases hstack : record.find? "tagStack" with
  | none => exact ⟨[], rfl, List.forall_mem_nil _⟩
  | some field =>
    obtain ⟨names, rfl, hnames⟩ := h.tagStack field hstack
    exact ⟨names, rfl, hnames⟩

end Shaped

/-- Some of the open elements from the outermost on. -/
theorem IsElements.outer {elements outer : List Field} (h : IsElements (.list elements))
    (houter : outer <+: elements) : IsElements (.list outer) := by
  obtain ⟨names, hnames, hall⟩ := h
  cases hnames
  obtain ⟨kept, hkept, rfl⟩ := List.prefix_map_iff.1 houter
  exact ⟨kept, rfl, fun name hmem ↦ hall name (hkept.subset hmem)⟩

theorem IsElements.append {elements : List Field} (h : IsElements (.list elements)) {name : String}
    (hname : name ≠ "") : IsElements (.list (elements ++ [.str name])) := by
  obtain ⟨names, hnames, hall⟩ := h
  cases hnames
  refine ⟨names ++ [name], by simp, List.forall_mem_append.2 ⟨hall, ?_⟩⟩
  simpa using hname

/-- Closing an element leaves a prefix of the open ones. -/
theorem prefix_closeElement (name : String) (elements : List Field) :
    closeElement name elements <+: elements := by
  unfold closeElement
  split
  · exact List.prefix_rfl
  · rename_i element outer hdrop
    have hsuffix : element :: outer <:+ elements.reverse := hdrop ▸ List.dropWhile_suffix _
    rw [← List.reverse_reverse elements]
    exact List.reverse_prefix.2 ((List.suffix_cons element outer).trans hsuffix)

namespace Shaped

/-- The end of a tag leads back to the shape of text. -/
theorem completeTag (h : Shaped baseIndent .tag record) :
    Shaped baseIndent .text (completeTag record) := by
  obtain ⟨_, hfound, name, rfl, hname, _⟩ := h.tagName.exists_eq (.inl rfl)
  have htag : record.str? "tagName" = some (String.ofList name) := by rw [Record.str?, hfound]
  unfold XmlGrammar.completeTag
  dsimp only
  rw [htag]
  dsimp only
  -- An end tag leaves some of the open elements, a start tag adds its name, which is not empty.
  split
  · have hclosed := h.isElements_list.outer (prefix_closeElement (String.ofList name) _)
    exact (h.insert_tagStack hclosed).finishTag
  · exact (h.insert_tagStack (h.isElements_list.append (by simpa using hname))).finishTag

theorem openValue (h : Shaped baseIndent .tag record) {delimiter : Char}
    (hdelimiter : delimiter = '"' ∨ delimiter = '\'') :
    Shaped baseIndent .value
      (setConstruct (record.insert "quote" (.str (String.singleton delimiter))) .value) := by
  have hinside : Construct.tag.InsideTag ↔ Construct.value.InsideTag := by decide
  have hquote : FieldWhen (Construct.value = .value) IsQuote
      (some (.str (String.singleton delimiter))) := .present rfl ⟨delimiter, rfl, hdelimiter⟩
  refine shaped_setConstruct ⟨?_, ?_, ?_, ?_, ?_⟩
  · simpa [Table.find?_insert] using h.tagName.congr hinside
  · simpa [Table.find?_insert] using h.closing.congr hinside
  · simpa [Table.find?_insert] using hquote
  · simpa [Table.find?_insert] using h.tagStack
  · simpa [Table.find?_insert] using h.baseIndent

theorem closeValue (h : Shaped baseIndent .value record) :
    Shaped baseIndent .tag (setConstruct (record.erase "quote") .tag) := by
  have hinside : Construct.value.InsideTag ↔ Construct.tag.InsideTag := by decide
  have hquote : FieldWhen (Construct.tag = .value) IsQuote none := .absent (by decide)
  refine shaped_setConstruct ⟨?_, ?_, ?_, ?_, ?_⟩
  · simpa [Table.find?_erase] using h.tagName.congr hinside
  · simpa [Table.find?_erase] using h.closing.congr hinside
  · simpa [Table.find?_erase] using hquote
  · simpa [Table.find?_erase] using h.tagStack
  · simpa [Table.find?_erase] using h.baseIndent

end Shaped

/-! ## Calls -/

def IsShaped (baseIndent : Nat) (answer : Option TokenClass × Record) : Prop :=
  ∃ construct, Shaped baseIndent construct answer.2

theorem Shaped.isShaped (h : Shaped baseIndent construct record) (cls : Option TokenClass) :
    IsShaped baseIndent (cls, record) := ⟨construct, h⟩

theorem ensures_readUntil (h : Shaped baseIndent construct record)
    (hconstruct : ¬ construct.InsideTag) (terminator : List Char) (cls : TokenClass) :
    Ensures (readUntil record terminator cls) (IsShaped baseIndent) := by
  have htext : Shaped baseIndent .text (setConstruct record .text) :=
    h.outside hconstruct (by decide)
  apply Ensures.branch
  · exact .andThen _ fun _ ↦ .pure (htext.isShaped _)
  · exact .andThen _ fun _ ↦ .pure (h.isShaped _)

theorem ensures_readMarkup (h : Shaped baseIndent .text record) :
    Ensures (readMarkup record) (IsShaped baseIndent) := by
  have hbegin {construct : Construct} (hconstruct : ¬ construct.InsideTag) :
      Shaped baseIndent construct (setConstruct record construct) :=
    h.outside (by decide) hconstruct
  apply Ensures.branch _ (ensures_readUntil (hbegin (by decide)) (by decide) _ _)
  apply Ensures.branch _ (ensures_readUntil (hbegin (by decide)) (by decide) _ _)
  apply Ensures.branch _ (ensures_readUntil (hbegin (by decide)) (by decide) _ _)
  apply Ensures.branch _ (.andThen _ fun _ ↦ .pure (h.isShaped _))
  refine .andThen _ fun closing ↦ .andThen _ fun ahead ↦ .ite (fun _ ↦ ?_) fun hname ↦ ?_
  · exact .pure (h.isShaped _)
  · have hchars : ∀ c ∈ ahead.takeWhile isNameChar, isNameChar c = true :=
      List.all_eq_true.1 List.all_takeWhile
    exact .andThen _ fun _ ↦ .pure ((h.nameTag (by simpa using hname) hchars closing).isShaped _)

theorem ensures_readText (h : Shaped baseIndent .text record) :
    Ensures (readText record) (IsShaped baseIndent) := by
  apply Ensures.branch _ (ensures_readMarkup h)
  apply Ensures.branch _ (.andThen _ fun _ ↦ .andThen _ fun _ ↦ .pure (h.isShaped _))
  exact .andThen _ fun _ ↦ .pure (h.isShaped _)

theorem ensures_readTag (h : Shaped baseIndent .tag record) :
    Ensures (readTag record) (IsShaped baseIndent) := by
  apply Ensures.branch _ (.pure (h.isShaped _))
  apply Ensures.branch _ (.pure (h.finishTag.isShaped _))
  apply Ensures.branch _ (.pure (h.completeTag.isShaped _))
  apply Ensures.branch _ (.pure (h.isShaped _))
  refine (Ensures.eat _).bind fun found hfound ↦ ?_
  cases found with
  | some delimiter =>
    have hdelimiter : delimiter = '"' ∨ delimiter = '\'' := by simpa using hfound delimiter rfl
    apply Ensures.branch
    · exact .andThen _ fun _ ↦ .pure (h.isShaped _)
    · exact .andThen _ fun _ ↦ .pure ((h.openValue hdelimiter).isShaped _)
  | none =>
    apply Ensures.branch _ (.pure (h.isShaped _))
    exact .andThen _ fun _ ↦ .pure (h.isShaped _)

theorem ensures_readValue (h : Shaped baseIndent .value record) :
    Ensures (readValue record) (IsShaped baseIndent) := by
  apply Ensures.branch
  · exact .andThen _ fun _ ↦ .pure (h.closeValue.isShaped _)
  · exact .andThen _ fun _ ↦ .pure (h.isShaped _)

/-- One call leads from shape to shape. -/
theorem ensures_readToken (h : Shaped baseIndent construct record) :
    Ensures (readToken record) (IsShaped baseIndent) := by
  unfold readToken
  rw [h.ofRecord_eq]
  cases construct with
  | comment => exact ensures_readUntil h (by decide) _ _
  | characterData => exact ensures_readUntil h (by decide) _ _
  | instruction => exact ensures_readUntil h (by decide) _ _
  | value => exact ensures_readValue h
  | tag => exact ensures_readTag h
  | text => exact ensures_readText h

/-! ## The mode -/

/-- A state that is the record of some construct. -/
def ShapedState (baseIndent : Nat) (state : State) : Prop :=
  ∃ record construct, state = .record record ∧ Shaped baseIndent construct record

/-- At the start of a document the record has the shape of text. -/
theorem shaped_start (indentUnit baseIndent : Nat) :
    ShapedState baseIndent ((mode indentUnit).start baseIndent) := by
  refine ⟨_, .text, rfl, ?_⟩
  exact
    { tokenize := rfl
      tagName := .absent (by decide)
      closing := .absent (by decide)
      quote := .absent (by decide)
      tagStack := nofun
      baseIndent := rfl }

/-- Every state on the way has one of the shapes. -/
theorem keeps_mode (indentUnit baseIndent : Nat) :
    (mode indentUnit).Keeps (ShapedState baseIndent) where
  copy := by
    rintro _ ⟨record, construct, rfl, h⟩
    exact ⟨record, construct, rfl, h⟩
  skipBlankLine _ h := h
  readToken := by
    rintro _ ⟨record, construct, rfl, h⟩
    refine (ensures_readToken h).bind fun answer hanswer ↦ .pure ?_
    obtain ⟨next, hnext⟩ := hanswer
    exact ⟨answer.2, next, rfl, hnext⟩

/-! ## What the grammar falls back on -/

/-- In an open value the delimiter is known, so that none has to be assumed. -/
def KnowsDelimiter (record : Record) : Prop :=
  Construct.ofRecord record = .value →
    ∃ delimiter, (record.str? "quote").bind (·.toList.head?) = some delimiter

/-- Within a value the quote that ends it is known. -/
theorem Shaped.knowsDelimiter (h : Shaped baseIndent construct record) : KnowsDelimiter record := by
  intro hvalue
  obtain ⟨_, hfound, delimiter, rfl, _⟩ := h.quote.exists_eq (h.ofRecord_eq.symm.trans hvalue)
  refine ⟨delimiter, ?_⟩
  rw [Record.str?, hfound]
  simp

/-- In text content an indentation is always suggested. -/
theorem exists_suggestIndent_of_text (indentUnit : Nat) (h : Construct.ofRecord record = .text)
    (text : Line) : ∃ base, (mode indentUnit).suggestIndent (.record record) text = some base := by
  change ∃ base, suggestIndent indentUnit record text = some base
  unfold suggestIndent
  rw [h]
  dsimp only
  split
  · exact ⟨_, rfl⟩
  · exact ⟨_, rfl⟩

end XmlGrammar

end LineLexer
