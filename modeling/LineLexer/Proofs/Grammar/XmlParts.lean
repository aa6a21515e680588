import LineLexer.Proofs.Grammar.XmlCalls
import LineLexer.Proofs.Highlight.Document

/-!
# Parts of element trees, over several lines

A part is read call by call, wherever line breaks cut it, and leads from one record to another. What
matters of a record is the construct that is read, the tag being read and the open elements, and
each part is told by what it does to these.
-/

namespace LineLexer.XmlGrammar

open Scan

variable {indentUnit : Nat} {record : Record} {ahead : List Char} {post : Record → Prop}

/-! ## From record to record -/

/-- The mode reads the text from the record without an error token, if this text lies ahead, and
comes to a record with the property. -/
def Leads (indentUnit : Nat) (record : Record) (text ahead : List Char) (post : Record → Prop) :
    Prop :=
  ∀ passed, ∃ passed' after, post after ∧
    Travels (mode indentUnit).readToken ⟨passed, .record record, text ++ ahead⟩
      ⟨passed', .record after, ahead⟩

/-- A call of the mode, from the call of the grammar. -/
theorem readToken_mode {passed text rest : List Char} {cls : Option TokenClass} {after : Record}
    (h : Reads (readToken record) passed [] (text ++ rest) (Yields (cls, after) text))
    (base : Cursor) (hidden : List Char) :
    (mode indentUnit).readToken (.record record)
        (base.placed hidden passed [] (text ++ rest)) =
      .ok ((cls, .record after), base.placed hidden passed text rest) := by
  obtain ⟨⟨cls', _⟩, token, rest', hline, ⟨after', rfl, hanswer, rfl⟩, hrun⟩ :=
    reads_mode indentUnit h
  obtain ⟨rfl, rfl⟩ := Prod.mk.inj hanswer
  obtain rfl : rest' = rest := List.append_cancel_left hline
  exact hrun base hidden

namespace Leads

variable {text : List Char}

theorem done (h : post record) : Leads indentUnit record [] ahead post :=
  fun passed ↦ ⟨passed, record, h, .done _⟩

/-- What is read of one text and then of another is read of both. -/
theorem append {middle : Record → Prop} {more : List Char}
    (h : Leads indentUnit record text (more ++ ahead) middle)
    (hmore : ∀ after, middle after → Leads indentUnit after more ahead post) :
    Leads indentUnit record (text ++ more) ahead post := by
  intro passed
  obtain ⟨passed', between, hbetween, htravels⟩ := h passed
  obtain ⟨passed'', after, hafter, htravels'⟩ := hmore between hbetween passed'
  rw [List.append_assoc]
  exact ⟨passed'', after, hafter, htravels.trans htravels'⟩

theorem mono {other : Record → Prop} (h : Leads indentUnit record text ahead post)
    (himp : ∀ after, post after → other after) : Leads indentUnit record text ahead other := by
  intro passed
  obtain ⟨passed', after, hafter, htravels⟩ := h passed
  exact ⟨passed', after, himp after hafter, htravels⟩

/-- The record after the first text is known. -/
theorem andThen {after : Record} {more : List Char}
    (h : Leads indentUnit record text (more ++ ahead) (· = after))
    (hmore : Leads indentUnit after more ahead post) :
    Leads indentUnit record (text ++ more) ahead post := by
  refine h.append ?_
  rintro _ rfl
  exact hmore

theorem lineBreak (h : Leads indentUnit record text ahead post) :
    Leads indentUnit record ('\n' :: text) ahead post := by
  intro passed
  obtain ⟨passed', after, hafter, htravels⟩ := h []
  exact ⟨passed', after, hafter, .lineBreak htravels⟩

theorem call {cls : Option TokenClass} {after : Record} (htext : text ≠ []) (hline : '\n' ∉ text)
    (hcls : cls ≠ some .error)
    (hread : ∀ passed,
      Reads (readToken record) passed [] (text ++ firstLine ahead) (Yields (cls, after) text))
    (hafter : post after) : Leads indentUnit record text ahead post :=
  fun passed ↦ ⟨passed ++ text, after, hafter,
    .call htext hline hcls (readToken_mode (hread passed)) (.done _)⟩

/-- A call that takes the rest of its line, and what is read from the next line on. -/
theorem callToLineEnd {cls : Option TokenClass} {after : Record} {more : List Char}
    (htext : text ≠ []) (hline : '\n' ∉ text) (hcls : cls ≠ some .error)
    (hread : ∀ passed, Reads (readToken record) passed [] text (Yields (cls, after) text))
    (hmore : Leads indentUnit after more ahead post) :
    Leads indentUnit record (text ++ '\n' :: more) ahead post := by
  have hcall : Leads indentUnit record text ('\n' :: more ++ ahead) (· = after) := by
    refine .call htext hline hcls (fun passed ↦ ?_) rfl
    rw [List.cons_append, firstLine_lineBreak, List.append_nil]
    exact hread passed
  exact hcall.andThen (.lineBreak hmore)

/-- A run of characters that are taken together as far as a line goes. -/
theorem run {accepts : Char → Bool}
    (hread : ∀ {passed text rest : List Char}, text ≠ [] → (∀ c ∈ text, accepts c = true) →
      (∀ c ∈ rest.head?, accepts c = false) →
      Reads (readToken record) passed [] (text ++ rest) (Yields (none, record) text))
    (htext : ∀ c ∈ text, accepts c = true) (hahead : ∀ c ∈ ahead.head?, accepts c = false) :
    Leads indentUnit record text ahead (· = record) := by
  -- the part of the run on one line, which may be empty
  have hpart {line : List Char} (hline : '\n' ∉ line) (hchars : ∀ c ∈ line, accepts c = true)
      {ahead : List Char} (hahead : ∀ c ∈ (firstLine ahead).head?, accepts c = false) :
      Leads indentUnit record line ahead (· = record) := by
    by_cases hempty : line = []
    · subst hempty
      exact .done rfl
    · have hcls : (none : Option TokenClass) ≠ some .error := nofun
      exact .call hempty hline hcls (fun _ ↦ hread hempty hchars hahead) rfl
  induction text using linesInduction with
  | last line hline => exact hpart hline htext fun c hc ↦ hahead c (mem_head?_of_firstLine hc)
  | more line text hline ih =>
    obtain ⟨hchars, htext⟩ := List.forall_mem_append.1 htext
    exact (hpart hline hchars (by simp)).andThen (.lineBreak (ih (List.forall_mem_cons.1 htext).2))

end Leads

/-! ## Parts over several lines -/

section Enclosed

variable {opener terminator : List Char} {cls : TokenClass} {closed opened resumed : Record}
  {body : List Char}

/-- What a text holds nowhere none of its lines holds. -/
theorem not_infix_of_lines {wanted line text : List Char}
    (h : ¬ wanted <:+: line ++ '\n' :: text) : ¬ wanted <:+: line ∧ ¬ wanted <:+: text := by
  constructor
  · exact fun hin ↦ h (hin.trans (List.prefix_append line _).isInfix)
  · exact fun hin ↦ h
      (hin.trans (List.suffix_append_of_suffix (List.suffix_cons '\n' text)).isInfix)

/-- Once opened, a construct is read up to its terminator, over lines if need be. -/
theorem Encloses.leads_opened (h : Encloses opener terminator cls record closed opened resumed)
    (hterminator : terminator ≠ [] ∧ '\n' ∉ terminator) (hcls : some cls ≠ some .error)
    (hresumed : post resumed) (hbody : ¬ terminator <:+: body) :
    Leads indentUnit opened (body ++ terminator) ahead post := by
  induction body using linesInduction with
  | last line hbreak =>
    refine .call (by simp [hterminator]) (by simp [hbreak, hterminator]) hcls (fun _ ↦ ?_) hresumed
    rw [List.append_assoc]
    exact h.ends hbody
  | more line text hbreak ih =>
    obtain ⟨hfirst, htext⟩ := not_infix_of_lines hbody
    rw [List.append_assoc, List.cons_append]
    by_cases hempty : line = []
    · subst hempty
      exact .lineBreak (ih htext)
    · exact .callToLineEnd hempty hbreak hcls (fun _ ↦ h.goesOn hfirst) (ih htext)

/-- The whole part, from its opener to its terminator. -/
theorem Encloses.leads (h : Encloses opener terminator cls record closed opened resumed)
    (hopener : opener ≠ [] ∧ '\n' ∉ opener) (hterminator : terminator ≠ [] ∧ '\n' ∉ terminator)
    (hcls : some cls ≠ some .error) (hclosed : post closed) (hresumed : post resumed)
    (hbody : ¬ terminator <:+: body) :
    Leads indentUnit record (opener ++ (body ++ terminator)) ahead post := by
  by_cases hbreak : '\n' ∈ body
  · obtain ⟨line, text, rfl, hline⟩ := List.eq_append_cons_of_mem hbreak
    obtain ⟨hfirst, htext⟩ := not_infix_of_lines hbody
    have hlist : opener ++ (line ++ '\n' :: text ++ terminator) =
        opener ++ line ++ '\n' :: (text ++ terminator) := by simp
    rw [hlist]
    exact .callToLineEnd (by simp [hopener]) (by simp [hopener, hline]) hcls
      (fun _ ↦ h.begins hfirst) (h.leads_opened hterminator hcls hresumed htext)
  · have hline : '\n' ∉ opener ++ (body ++ terminator) := by simp [hopener, hterminator, hbreak]
    refine .call (by simp [hopener]) hline hcls (fun _ ↦ ?_) hclosed
    rw [List.append_assoc, List.append_assoc]
    exact h.whole hbody

end Enclosed

/-! ## Records -/

/-- The same construct goes on, and all is as it was but the delimiter of a value. -/
structure Resumes (record after : Record) : Prop where
  construct : Construct.ofRecord after = Construct.ofRecord record
  fields : ∀ key, key ≠ "tokenize" → key ≠ "quote" → after.find? key = record.find? key

theorem Resumes.refl (record : Record) : Resumes record record := ⟨rfl, fun _ _ _ ↦ rfl⟩

theorem Resumes.trans {after last : Record} (h : Resumes record after) (h' : Resumes after last) :
    Resumes record last where
  construct := h'.construct.trans h.construct
  fields key hconstruct hquote :=
    (h'.fields key hconstruct hquote).trans (h.fields key hconstruct hquote)

/-- Text content with these elements open. -/
structure Content (elements : List Field) (baseIndent : Int) (record : Record) : Prop where
  text : Construct.ofRecord record = .text
  elements : record.list "tagStack" = elements
  baseIndent : record.int "baseIndent" = baseIndent

/-- Inside a tag of this name, with these elements open. -/
structure InTagOf (name : Name) (closing : Bool) (elements : List Field) (baseIndent : Int)
    (record : Record) : Prop where
  tag : Construct.ofRecord record = .tag
  name : record.str? "tagName" = some (String.ofList name.text)
  closing : record.bool "closing" = closing
  elements : record.list "tagStack" = elements
  baseIndent : record.int "baseIndent" = baseIndent

def Name.field (name : Name) : Field := .str (String.ofList name.text)

section Records

variable {elements : List Field} {baseIndent : Int} {name : Name} {closing : Bool} {after : Record}

theorem Resumes.content (h : Resumes record after) (hrecord : Content elements baseIndent record) :
    Content elements baseIndent after where
  text := h.construct.trans hrecord.text
  elements := by
    rw [Record.list, h.fields _ (by decide) (by decide)]
    exact hrecord.elements
  baseIndent := by
    rw [Record.int, h.fields _ (by decide) (by decide)]
    exact hrecord.baseIndent

theorem Resumes.inTagOf (h : Resumes record after)
    (hrecord : InTagOf name closing elements baseIndent record) :
    InTagOf name closing elements baseIndent after where
  tag := h.construct.trans hrecord.tag
  name := by
    rw [Record.str?, h.fields _ (by decide) (by decide)]
    exact hrecord.name
  closing := by
    rw [Record.bool, h.fields _ (by decide) (by decide)]
    exact hrecord.closing
  elements := by
    rw [Record.list, h.fields _ (by decide) (by decide)]
    exact hrecord.elements
  baseIndent := by
    rw [Record.int, h.fields _ (by decide) (by decide)]
    exact hrecord.baseIndent

/-- The beginning of a tag in content is within that tag. -/
theorem Content.nameTag (h : Content elements baseIndent record) (name : Name) (closing : Bool) :
    InTagOf name closing elements baseIndent (nameTag record name.text closing) where
  tag := ofRecord_setConstruct _ _
  name := str?_tagName_nameTag record name.text closing
  closing := by simp [XmlGrammar.nameTag, Record.bool, setConstruct, Table.find?_insert]
  elements := by
    rw [← h.elements]
    simp [XmlGrammar.nameTag, Record.list, setConstruct, Table.find?_insert]
  baseIndent := by
    rw [← h.baseIndent]
    simp [XmlGrammar.nameTag, Record.int, setConstruct, Table.find?_insert]

theorem int_baseIndent_finishTag (record : Record) :
    (finishTag record).int "baseIndent" = record.int "baseIndent" := by
  simp [finishTag, Record.int, setConstruct, Table.find?_insert, Table.find?_erase]

theorem int_baseIndent_completeTag (record : Record) :
    (completeTag record).int "baseIndent" = record.int "baseIndent" := by
  unfold completeTag
  dsimp only
  rw [int_baseIndent_finishTag]
  split
  · rfl
  · split <;> simp [Record.int, Table.find?_insert]

/-- Behind an empty element is content with the same elements open. -/
theorem InTagOf.finishTag (h : InTagOf name closing elements baseIndent record) :
    Content elements baseIndent (finishTag record) :=
  ⟨ofRecord_finishTag record, (list_tagStack_finishTag record).trans h.elements,
    (int_baseIndent_finishTag record).trans h.baseIndent⟩

/-- A start tag opens its element. -/
theorem InTagOf.completeStart (h : InTagOf name false elements baseIndent record) :
    Content (elements ++ [name.field]) baseIndent (completeTag record) where
  text := ofRecord_completeTag record
  elements := by
    rw [list_tagStack_completeTag h.name, elementsAfter, h.closing, h.elements]
    rfl
  baseIndent := (int_baseIndent_completeTag record).trans h.baseIndent

/-- The end tag of the innermost element closes that element. -/
theorem closeElement_append (name : String) (elements : List Field) :
    closeElement name (elements ++ [.str name]) = elements := by
  simp [closeElement, Field.str?]

/-- An end tag closes the innermost element, which has its name. -/
theorem InTagOf.completeEnd (h : InTagOf name true (elements ++ [name.field]) baseIndent record) :
    Content elements baseIndent (completeTag record) where
  text := ofRecord_completeTag record
  elements := by
    rw [list_tagStack_completeTag h.name, elementsAfter, h.closing, h.elements, if_pos rfl]
    exact closeElement_append _ elements
  baseIndent := (int_baseIndent_completeTag record).trans h.baseIndent

theorem resumes_enclosure (hrecord : Construct.ofRecord record = .text) (construct : Construct) :
    Resumes record (setConstruct (setConstruct record construct) .text) where
  construct := by rw [ofRecord_setConstruct, hrecord]
  fields key hconstruct _ := by
    rw [find?_setConstruct _ _ hconstruct, find?_setConstruct _ _ hconstruct]

theorem resumes_value (hrecord : Construct.ofRecord record = .tag) (quote : Char) :
    Resumes record (setConstruct ((openValue record quote).erase "quote") .tag) where
  construct := by rw [ofRecord_setConstruct, hrecord]
  fields key hconstruct hquote := by
    rw [find?_setConstruct _ _ hconstruct, Table.find?_erase, if_neg hquote, openValue,
      find?_setConstruct _ _ hconstruct, Table.find?_insert, if_neg hquote]

end Records

/-! ## Tags -/

theorem Name.head?_append (name : Name) (rest : List Char) :
    ∀ c ∈ (name.text ++ rest).head?, isNameChar c = true := by
  obtain ⟨first, text, htext⟩ := List.exists_cons_of_ne_nil name.ne_nil
  intro c hc
  rw [htext] at hc
  exact Option.some.inj hc ▸ name.chars first (by simp [htext])

theorem Name.not_mem_lineBreak (name : Name) : '\n' ∉ name.text :=
  fun hmem ↦ absurd (name.chars '\n' hmem) (by decide)

/-- What follows on the line is what follows in the text. -/
theorem forall_head?_firstLine {accepts : Char → Bool} {text : List Char}
    (h : ∀ c ∈ text.head?, accepts c = false) : ∀ c ∈ (firstLine text).head?, accepts c = false :=
  fun c hc ↦ h c (mem_head?_of_firstLine hc)

theorem Blanks.leads (gap : Blanks) (hrecord : Construct.ofRecord record = .tag)
    (hahead : ∀ c ∈ ahead.head?, isSpace c = false) :
    Leads indentUnit record gap.text ahead (· = record) :=
  .run (reads_blanks hrecord) gap.chars hahead

/-- An attribute is read up to its value. -/
theorem Attribute.leads (attr : Attribute) (hrecord : Construct.ofRecord record = .tag) :
    Leads indentUnit record attr.text ahead (Resumes record) := by
  obtain ⟨gap, _, name, quote, hquote, value, hvalue⟩ := attr
  have hquoteLine : '\n' ∉ [quote] := by
    intro hmem
    rw [← List.mem_singleton.1 hmem] at hquote
    exact absurd hquote (by decide)
  have hopen : Leads indentUnit record ([quote] ++ (value ++ [quote])) ahead (Resumes record) :=
    (encloses_value hrecord hquote).leads ⟨by simp, hquoteLine⟩ ⟨by simp, hquoteLine⟩ nofun
      (.refl record) (resumes_value hrecord quote)
      fun hin ↦ hvalue (hin.subset List.mem_cons_self)
  have hequals : Leads indentUnit record ['='] ([quote] ++ (value ++ [quote]) ++ ahead)
      (· = record) :=
    .call (by simp) (by simp) (by simp) (fun _ ↦ reads_equals hrecord) rfl
  have hname : Leads indentUnit record name.text
      (['='] ++ ([quote] ++ (value ++ [quote])) ++ ahead) (· = record) := by
    have hend : ∀ c ∈ (['='] ++ ([quote] ++ (value ++ [quote])) ++ ahead).head?,
        isNameChar c = false := by
      intro c hc
      exact Option.some.inj hc ▸ by decide
    exact .call name.ne_nil name.not_mem_lineBreak (by simp)
      (fun _ ↦ reads_attributeName hrecord name (forall_head?_firstLine hend)) rfl
  refine (gap.leads hrecord fun c hc ↦ ?_).andThen (hname.andThen (hequals.andThen hopen))
  rw [List.append_assoc] at hc
  exact isSpace_of_isNameChar (name.head?_append _ c hc)

/-- What follows a tag is neither a blank nor part of a name. -/
def EndsTag (ahead : List Char) : Prop :=
  ∀ c ∈ ahead.head?, isNameChar c = false ∧ isSpace c = false

theorem endsTag_cons {c : Char} (h : isNameChar c = false ∧ isSpace c = false) (text : List Char) :
    EndsTag (c :: text) := by
  intro d hd
  exact Option.some.inj hd ▸ h

/-- All attributes of a tag are read, up to what ends the tag. -/
theorem leads_attributes (attributes : List Attribute) (gap : Blanks)
    (hrecord : Construct.ofRecord record = .tag) (hahead : EndsTag ahead) :
    Leads indentUnit record (attributes.flatMap Attribute.text ++ gap.text) ahead
      (Resumes record) := by
  induction attributes generalizing record with
  | nil =>
    refine (gap.leads hrecord fun c hc ↦ (hahead c hc).2).mono ?_
    rintro _ rfl
    exact .refl _
  | cons attr attributes ih =>
    rw [List.flatMap_cons, List.append_assoc]
    refine (attr.leads hrecord).append fun after hafter ↦ ?_
    exact (ih (hafter.construct.trans hrecord)).mono fun _ ↦ hafter.trans

/-- Blanks end a name, and so does what follows a tag. -/
theorem EndsTag.isNameChar_head (h : EndsTag ahead) {text : List Char}
    (htext : ∀ c ∈ text.head?, isSpace c = true) :
    ∀ c ∈ (text ++ ahead).head?, isNameChar c = false := by
  cases text with
  | nil => exact fun c hc ↦ (h c hc).1
  | cons first text => exact fun c hc ↦ isNameChar_of_isSpace (htext c hc)

theorem isSpace_head_attributes (attributes : List Attribute) (gap : Blanks) :
    ∀ c ∈ (attributes.flatMap Attribute.text ++ gap.text).head?, isSpace c = true := by
  cases attributes with
  | nil => exact fun c hc ↦ gap.chars c (List.mem_of_mem_head? hc)
  | cons attr attributes =>
    obtain ⟨first, text, htext⟩ := List.exists_cons_of_ne_nil attr.gap_ne_nil
    intro c hc
    rw [List.flatMap_cons, Attribute.text, htext] at hc
    exact Option.some.inj hc ▸ attr.gap.chars first (by simp [htext])

section Elements

variable {elements : List Field} {baseIndent : Int}

theorem leads_tagStart (hrecord : Content elements baseIndent record) (name : Name) (closing : Bool)
    (hahead : ∀ c ∈ ahead.head?, isNameChar c = false) :
    Leads indentUnit record (tagStart name.text closing) ahead
      (InTagOf name closing elements baseIndent) := by
  have hline : '\n' ∉ tagStart name.text closing := by
    cases closing <;> simp [tagStart, name.not_mem_lineBreak]
  exact .call (List.cons_ne_nil _ _) hline (by simp)
    (fun _ ↦ reads_tagStart hrecord.text name closing (forall_head?_firstLine hahead))
    (hrecord.nameTag name closing)

/-- A tag up to its end. -/
theorem Tag.leads (tag : Tag) (hrecord : Content elements baseIndent record)
    (hahead : EndsTag ahead) :
    Leads indentUnit record tag.text ahead (InTagOf tag.name false elements baseIndent) := by
  have hrest := hahead.isNameChar_head (isSpace_head_attributes tag.attributes tag.gap)
  refine (leads_tagStart hrecord tag.name false hrest).append fun after hafter ↦ ?_
  exact (leads_attributes tag.attributes tag.gap hafter.tag hahead).mono
    fun _ hlast ↦ hlast.inTagOf hafter

theorem leads_tagEnd (hrecord : Construct.ofRecord record = .tag) {text : List Char}
    (hrest : Leads indentUnit (completeTag record) text ahead post) :
    Leads indentUnit record ('>' :: text) ahead post := by
  have hcall : Leads indentUnit record ['>'] (text ++ ahead) (· = completeTag record) :=
    .call (by simp) (by simp) (by simp) (fun _ ↦ readToken_tagEnd hrecord _ _) rfl
  exact hcall.andThen hrest

/-- An end tag closes the innermost element. -/
theorem leads_endTag (name : Name) (gap : Blanks)
    (hrecord : Content (elements ++ [name.field]) baseIndent record) :
    Leads indentUnit record (endTag name gap) ahead (Content elements baseIndent) := by
  have hend : EndsTag ('>' :: ahead) := endsTag_cons (by decide) ahead
  have hrest : ∀ c ∈ (gap.text ++ ['>'] ++ ahead).head?, isNameChar c = false := by
    rw [List.append_assoc]
    exact hend.isNameChar_head fun c hc ↦ gap.chars c (List.mem_of_mem_head? hc)
  have hlist : endTag name gap = tagStart name.text true ++ (gap.text ++ ['>']) := by
    simp [endTag, tagStart]
  rw [hlist]
  refine (leads_tagStart hrecord name true hrest).append fun after hafter ↦ ?_
  have hgap : Leads indentUnit after gap.text (['>'] ++ ahead) (· = after) :=
    gap.leads hafter.tag fun c hc ↦ (hend c hc).2
  exact hgap.andThen (leads_tagEnd hafter.tag (.done hafter.completeEnd))

end Elements

end LineLexer.XmlGrammar
