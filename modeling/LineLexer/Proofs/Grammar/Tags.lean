import LineLexer.Proofs.Grammar.Xml

/-!
# Tags and open elements in XML

One call of the mode of XML begins a tag, or completes one, or does nothing to the tag being read
and to the open elements. What later lemmas say of tags is read off these few steps: inside a tag
its name is known, and elements are opened and closed only by the angle bracket that completes a
tag.
-/

namespace LineLexer.XmlGrammar

open Scan

/-! ## Constructs -/

@[simp] theorem ofRecord_setConstruct (record : Record) (construct : Construct) :
    Construct.ofRecord (setConstruct record construct) = construct := by
  have hfound : (setConstruct record construct).str? "tokenize" = some construct.name := by
    rw [setConstruct, Record.str?, Table.find?_insert, if_pos rfl]
  rw [Construct.ofRecord, hfound]
  cases construct <;> rfl

theorem find?_setConstruct (record : Record) (construct : Construct) {key : String}
    (hkey : key ≠ "tokenize") : (setConstruct record construct).find? key = record.find? key := by
  rw [setConstruct, Table.find?_insert, if_neg hkey]

/-- Inside a tag, be it inside the value of an attribute. -/
def InTag (record : Record) : Prop :=
  Construct.ofRecord record = .tag ∨ Construct.ofRecord record = .value

theorem not_inTag_of_text {record : Record} (h : Construct.ofRecord record = .text) :
    ¬ InTag record := by
  simp [InTag, h]

/-- The same tag is being read, or none in both, and the same elements are open. -/
structure SameTags (record after : Record) : Prop where
  fields : ∀ key, key ≠ "tokenize" → key ≠ "quote" → after.find? key = record.find? key
  inTag : InTag after ↔ InTag record

theorem SameTags.refl (record : Record) : SameTags record record := ⟨fun _ _ _ ↦ rfl, .rfl⟩

/-- The tags stay the same in a record that differs in its construct, and in nothing that concerns
them. -/
theorem SameTags.setConstruct {record other : Record}
    (hfields : ∀ key, key ≠ "tokenize" → key ≠ "quote" → other.find? key = record.find? key)
    {construct : Construct} (hinTag : (construct = .tag ∨ construct = .value) ↔ InTag record) :
    SameTags record (setConstruct other construct) := by
  refine ⟨fun key hconstruct hquote ↦ ?_, ?_⟩
  · rw [find?_setConstruct other construct hconstruct, hfields key hconstruct hquote]
  · rw [InTag, ofRecord_setConstruct, hinTag]

/-- Outside of tags any change between the other constructs leaves tags alone. -/
theorem SameTags.outside {record other : Record} (h : SameTags record other)
    (houtside : ¬ InTag record) {construct : Construct} (htag : construct ≠ .tag)
    (hvalue : construct ≠ .value) :
    SameTags record (XmlGrammar.setConstruct other construct) :=
  .setConstruct h.fields (iff_of_false (not_or.2 ⟨htag, hvalue⟩) houtside)

/-! ## Steps -/

/-- The beginning of a start tag or of an end tag. -/
def tagStart (name : List Char) (closing : Bool) : List Char :=
  '<' :: ((if closing then ['/'] else []) ++ name)

def nameTag (record : Record) (name : List Char) (closing : Bool) : Record :=
  setConstruct ((record.insert "tagName" (.str (String.ofList name))).insert "closing"
    (.bool closing)) .tag

/-- What one call does to tags, by the text it takes. -/
inductive Step (record : Record) : List Char → Option TokenClass → Record → Prop where
  | name {name : List Char} (closing : Bool) (hrecord : Construct.ofRecord record = .text)
      (hname : name ≠ []) (hchars : ∀ c ∈ name, isNameChar c = true) :
      Step record (tagStart name closing) (some .tag) (nameTag record name closing)
  | selfClosing (hrecord : Construct.ofRecord record = .tag) :
      Step record ['/', '>'] (some .tag) (finishTag record)
  | complete (hrecord : Construct.ofRecord record = .tag) :
      Step record ['>'] (some .tag) (completeTag record)
  | other {text : List Char} {cls : Option TokenClass} {after : Record} (hcls : cls ≠ some .tag)
      (hsame : SameTags record after) : Step record text cls after

/-- The answer neither begins nor completes a tag. -/
def LeavesTags (record : Record) (answer : Option TokenClass × Record) : Prop :=
  answer.1 ≠ some .tag ∧ SameTags record answer.2

theorem LeavesTags.same (record : Record) {cls : Option TokenClass} (hcls : cls ≠ some .tag) :
    LeavesTags record (cls, record) := ⟨hcls, .refl record⟩

abbrev Steps (record : Record) (action : Scan (Option TokenClass × Record))
    (passed token ahead : List Char) : Prop :=
  Reads action passed token ahead fun answer token' _ ↦ Step record token' answer.1 answer.2

variable {record : Record} {passed token ahead : List Char}

/-- An action that leaves the tags takes a step. -/
theorem steps_of_forward {action : Scan (Option TokenClass × Record)}
    (h : Forward action (LeavesTags record)) : Steps record action passed token ahead :=
  (h passed token ahead).mono fun _ _ _ hanswer ↦ .other hanswer.2.1 hanswer.2.2

theorem steps_same {cls : Option TokenClass} (hcls : cls ≠ some .tag) :
    Steps record (pure (cls, record)) passed token ahead :=
  .pure (.other hcls (.refl record))

/-! ## Outside of tags -/

/-- Comments, instructions, declarations and character data leave the tags. -/
theorem steps_readUntil (houtside : ¬ InTag record) {other : Record}
    (hother : SameTags record other) (terminator : List Char) {cls : TokenClass}
    (hcls : cls ≠ .tag) : Steps record (readUntil other terminator cls) passed token ahead := by
  have hclass : some cls ≠ some TokenClass.tag := by simpa using hcls
  apply steps_of_forward
  apply Forward.skipOver
  · exact .pure ⟨hclass, hother.outside houtside (by decide) (by decide)⟩
  · exact Forward.skipToEnd.andThen fun _ ↦ .pure ⟨hclass, hother⟩

/-- A name after an angle bracket, or an error. -/
theorem steps_readName (hrecord : Construct.ofRecord record = .text) (closing : Bool) :
    Steps record (do
      let name := (← rest).takeWhile isNameChar
      if name.isEmpty then
        return (some TokenClass.error, record)
      advance name
      let named : Record := record.insert "tagName" (.str (String.ofList name))
      let named : Record := named.insert "closing" (.bool closing)
      return (some TokenClass.tag, setConstruct named .tag))
    passed (tagStart [] closing) ahead := by
  refine .bind (.rest ?_)
  dsimp only
  apply Reads.ite
  · intro _
    exact steps_same (by decide)
  · intro hname
    have hahead : ahead = ahead.takeWhile isNameChar ++ ahead.dropWhile isNameChar :=
      List.takeWhile_append_dropWhile.symm
    have htoken : tagStart [] closing ++ ahead.takeWhile isNameChar =
        tagStart (ahead.takeWhile isNameChar) closing := by
      simp [tagStart]
    refine .bind (.advance hahead (.pure ?_))
    rw [htoken]
    exact .name closing hrecord (by simpa using hname) (List.all_eq_true.1 List.all_takeWhile)

/-- Behind a `<` a tag begins, or something that leaves the tags. -/
theorem steps_readMarkup (hrecord : Construct.ofRecord record = .text) :
    Steps record (readMarkup record) passed ['<'] ahead := by
  have houtside := not_inTag_of_text hrecord
  have hset (construct : Construct) (htag : construct ≠ .tag) (hvalue : construct ≠ .value) :
      SameTags record (setConstruct record construct) :=
    (SameTags.refl record).outside houtside htag hvalue
  have hdeclaration : Forward (do
      skipPast '>'
      return (some TokenClass.marker, record)) (LeavesTags record) :=
    (forward_skipPast '>').andThen fun _ ↦ .pure (.same record (by decide))
  refine .bind (.matchText (fun _ _ ↦ ?_) fun _ ↦ ?_)
  · exact steps_readUntil houtside (hset .comment nofun nofun) _ nofun
  refine .bind (.matchText (fun _ _ ↦ ?_) fun _ ↦ ?_)
  · exact steps_readUntil houtside (hset .characterData nofun nofun) _ nofun
  refine .bind (.eatChar (fun _ _ ↦ ?_) fun _ ↦ ?_)
  · exact steps_readUntil houtside (hset .instruction nofun nofun) _ nofun
  refine .bind (.eatChar (fun _ _ ↦ steps_of_forward hdeclaration) fun _ ↦ ?_)
  refine .bind (.eatChar (fun _ _ ↦ ?_) fun _ ↦ ?_)
  · exact steps_readName hrecord true
  · exact steps_readName hrecord false

theorem steps_readText (hrecord : Construct.ofRecord record = .text) :
    Steps record (readText record) passed [] ahead := by
  have hreference : Forward (do
      let _ ← eatWhile fun c ↦ isAlphanumeric c || c == '#'
      let closed ← eatChar ';'
      return (some (if closed then TokenClass.atom else .error), record)) (LeavesTags record) :=
    .andThen (.eatWhile _) fun _ ↦ .andThen (.eatChar _) fun closed ↦
      .pure (.same record (by cases closed <;> decide))
  refine .bind (.eatChar (fun _ _ ↦ steps_readMarkup hrecord) fun _ ↦ ?_)
  refine .bind (.eatChar (fun _ _ ↦ steps_of_forward hreference) fun _ ↦ ?_)
  exact .bind (.eatWhile (steps_same (by decide)))

/-! ## Inside tags -/

theorem forward_readQuoted_leavesTags (hrecord : InTag record) (delimiter : Char) :
    Forward (do
      if ← skipTo delimiter then
        let _ ← next
        return (some TokenClass.string, record)
      else
        skipToEnd
        let quoted : Record := record.insert "quote" (.str (String.singleton delimiter))
        return (some TokenClass.string, setConstruct quoted .value)) (LeavesTags record) := by
  apply Forward.branch (.skipToText _)
  · exact Forward.next.andThen fun _ ↦ .pure (.same record (by decide))
  · refine Forward.skipToEnd.andThen fun _ ↦ .pure ⟨nofun, ?_⟩
    refine .setConstruct (fun key _ hquote ↦ ?_) (iff_of_true (.inr rfl) hrecord)
    rw [Table.find?_insert, if_neg hquote]

theorem steps_readTag (hrecord : Construct.ofRecord record = .tag) :
    Steps record (readTag record) passed [] ahead := by
  refine .bind (.eatSome (fun _ _ _ _ ↦ steps_same (by decide)) fun _ ↦ ?_)
  refine .bind (.matchText (fun _ _ ↦ .pure (.selfClosing hrecord)) fun _ ↦ ?_)
  refine .bind (.eatChar (fun _ _ ↦ .pure (.complete hrecord)) fun _ ↦ ?_)
  refine .bind (.eatChar (fun _ _ ↦ steps_same (by decide)) fun _ ↦ ?_)
  refine .bind (.eat (fun delimiter _ _ _ ↦ ?_) fun _ ↦ ?_)
  · exact steps_of_forward (forward_readQuoted_leavesTags (.inl hrecord) delimiter)
  refine .bind (.eatSome (fun _ _ _ _ ↦ steps_same (by decide)) fun _ ↦ ?_)
  exact .bind (.next (fun _ _ _ ↦ steps_same (by decide)) fun _ ↦ steps_same (by decide))

theorem forward_readValue_leavesTags (hrecord : InTag record) :
    Forward (readValue record) (LeavesTags record) := by
  apply Forward.branch (.skipToText _)
  · refine Forward.next.andThen fun _ ↦ .pure ⟨nofun, ?_⟩
    refine .setConstruct (fun key _ hquote ↦ ?_) (iff_of_true (.inl rfl) hrecord)
    rw [Table.find?_erase, if_neg hquote]
  · exact Forward.skipToEnd.andThen fun _ ↦ .pure (.same record (by decide))

/-- Every call takes a step. -/
theorem steps_readToken (record : Record) (passed ahead : List Char) :
    Steps record (readToken record) passed [] ahead := by
  have houtside {construct : Construct} (hrecord : Construct.ofRecord record = construct)
      (htag : construct ≠ .tag) (hvalue : construct ≠ .value) : ¬ InTag record := by
    rw [InTag, hrecord]
    exact not_or.2 ⟨htag, hvalue⟩
  have hsame := SameTags.refl record
  unfold readToken
  cases hrecord : Construct.ofRecord record with
  | comment => exact steps_readUntil (houtside hrecord nofun nofun) hsame _ nofun
  | characterData => exact steps_readUntil (houtside hrecord nofun nofun) hsame _ nofun
  | instruction => exact steps_readUntil (houtside hrecord nofun nofun) hsame _ nofun
  | value => exact steps_of_forward (forward_readValue_leavesTags (.inr hrecord))
  | tag => exact steps_readTag hrecord
  | text => exact steps_readText hrecord

/-! ## Names of tags -/

/-- Inside a tag its name is known. -/
def Named (record : Record) : Prop := InTag record → ∃ name, record.str? "tagName" = some name

theorem str?_tagName_nameTag (record : Record) (name : List Char) (closing : Bool) :
    (nameTag record name closing).str? "tagName" = some (String.ofList name) := by
  rw [nameTag, Record.str?, find?_setConstruct _ _ (by decide), Table.find?_insert,
    if_neg (by decide), Table.find?_insert, if_pos rfl]

theorem ofRecord_finishTag (record : Record) : Construct.ofRecord (finishTag record) = .text :=
  ofRecord_setConstruct _ _

theorem ofRecord_completeTag (record : Record) : Construct.ofRecord (completeTag record) = .text :=
  ofRecord_finishTag _

/-- The name of a tag stays known up to its end. -/
theorem Step.named {text : List Char} {cls : Option TokenClass} {after : Record}
    (h : Step record text cls after) (hrecord : Named record) : Named after := by
  cases h with
  | name closing _ _ _ =>
    intro _
    exact ⟨_, str?_tagName_nameTag record _ closing⟩
  | selfClosing _ =>
    intro hinTag
    exact absurd hinTag (not_inTag_of_text (ofRecord_finishTag record))
  | complete _ =>
    intro hinTag
    exact absurd hinTag (not_inTag_of_text (ofRecord_completeTag record))
  | other _ hsame =>
    intro hinTag
    obtain ⟨name, hname⟩ := hrecord (hsame.inTag.1 hinTag)
    refine ⟨name, ?_⟩
    rw [Record.str?, hsame.fields "tagName" (by decide) (by decide)]
    exact hname

/-! ## Open elements -/

/-- The open elements once the tag being read is complete. -/
def elementsAfter (record : Record) (name : String) : List Field :=
  if record.bool "closing" then closeElement name (record.list "tagStack")
  else record.list "tagStack" ++ [.str name]

theorem openElement?_record (record : Record) :
    openElement? (.record record) =
      (guard (Construct.ofRecord record = .text) : Option Unit).bind fun _ ↦
        (record.list "tagStack").getLast?.bind Field.str? := rfl

/-- Between constructs the last of the open elements is innermost. -/
theorem openElement?_of_text (h : Construct.ofRecord record = .text) :
    openElement? (.record record) = (record.list "tagStack").getLast?.bind Field.str? := by
  have hguard : (guard (Construct.ofRecord record = .text) : Option Unit) = some () := if_pos h
  rw [openElement?_record, hguard, Option.bind_some]

theorem openElement?_of_ne_text (h : Construct.ofRecord record ≠ .text) :
    openElement? (.record record) = none := by
  have hguard : (guard (Construct.ofRecord record = .text) : Option Unit) = none := if_neg h
  rw [openElement?_record, hguard, Option.bind_none]

theorem list_tagStack_finishTag (record : Record) :
    (finishTag record).list "tagStack" = record.list "tagStack" := by
  unfold finishTag Record.list
  rw [find?_setConstruct _ _ (by decide), Table.find?_erase, if_neg (by decide), Table.find?_erase,
    if_neg (by decide)]

theorem list_tagStack_insert (record : Record) (elements : List Field) :
    Record.list (record.insert "tagStack" (.list elements)) "tagStack" = elements := by
  rw [Record.list, Table.find?_insert, if_pos rfl]

/-- Completing a tag opens or closes its element. -/
theorem list_tagStack_completeTag {name : String} (hname : record.str? "tagName" = some name) :
    (completeTag record).list "tagStack" = elementsAfter record name := by
  unfold completeTag elementsAfter
  dsimp only
  rw [list_tagStack_finishTag, hname]
  dsimp only
  split
  · exact list_tagStack_insert _ _
  · exact list_tagStack_insert _ _

/-- An end tag closes elements by its name, as they were open where it began. -/
theorem elementsAfter_nameTag_closing (record : Record) (name : List Char) :
    elementsAfter (nameTag record name true) (String.ofList name) =
      closeElement (String.ofList name) (record.list "tagStack") := by
  have hclosing : (nameTag record name true).bool "closing" = true := by
    rw [nameTag, Record.bool, find?_setConstruct _ _ (by decide), Table.find?_insert, if_pos rfl]
  have hstack : (nameTag record name true).list "tagStack" = record.list "tagStack" := by
    rw [nameTag, Record.list, find?_setConstruct _ _ (by decide), Table.find?_insert,
      if_neg (by decide), Table.find?_insert, if_neg (by decide)]
    rfl
  rw [elementsAfter, if_pos hclosing, hstack]

/-! ## The beginning and the end of a tag -/

theorem ne_of_isNameChar {c other : Char} (h : isNameChar c = true)
    (hother : isNameChar other = false) : c ≠ other := by
  rintro rfl
  rw [h] at hother
  cases hother

/-- A name after an angle bracket begins a tag. -/
theorem readToken_tagStart (hrecord : Construct.ofRecord record = .text) {name : List Char}
    (hname : name ≠ []) (hchars : ∀ c ∈ name, isNameChar c = true) (closing : Bool)
    (passed : List Char) {ahead : List Char} (hahead : ∀ c ∈ ahead.head?, isNameChar c = false) :
    Reads (readToken record) passed [] (tagStart name closing ++ ahead) fun answer token' _ ↦
      answer = (some .tag, nameTag record name closing) ∧ token' = tagStart name closing := by
  have htake : (name ++ ahead).takeWhile isNameChar = name := by
    rw [List.takeWhile_append_of_pos hchars]
    cases ahead with
    | nil => simp
    | cons c ahead => simp [hahead c rfl]
  have hread (closing : Bool) : Reads (do
      let name := (← rest).takeWhile isNameChar
      if name.isEmpty then
        return (some TokenClass.error, record)
      advance name
      let named : Record := record.insert "tagName" (.str (String.ofList name))
      let named : Record := named.insert "closing" (.bool closing)
      return (some TokenClass.tag, setConstruct named .tag))
      passed (tagStart [] closing) (name ++ ahead) fun answer token' _ ↦
        answer = (some .tag, nameTag record name closing) ∧ token' = tagStart name closing := by
    refine .bind (.rest ?_)
    dsimp only
    rw [htake]
    refine .ite (fun hempty ↦ absurd (List.isEmpty_iff.1 hempty) hname) fun _ ↦ ?_
    exact .bind (.advance rfl (.pure ⟨rfl, by simp [tagStart]⟩))
  obtain ⟨c, text, rfl⟩ := List.exists_cons_of_ne_nil hname
  have hc {other : Char} (hother : isNameChar other = false) : c ≠ other :=
    ne_of_isNameChar (hchars c List.mem_cons_self) hother
  unfold readToken
  rw [hrecord]
  refine .bind (.eatChar_self ?_)
  cases closing with
  | true =>
    refine .bind (.matchText_other (by simp) ?_)
    refine .bind (.matchText_other (by simp) ?_)
    refine .bind (.eatChar_other (by simp) ?_)
    refine .bind (.eatChar_other (by simp) ?_)
    exact .bind (.eatChar_self (hread true))
  | false =>
    have hmark : '!' ≠ c := (hc (by decide)).symm
    refine .bind (.matchText_other (by simp [hmark]) ?_)
    refine .bind (.matchText_other (by simp [hmark]) ?_)
    refine .bind (.eatChar_other (by simpa using hc (by decide)) ?_)
    refine .bind (.eatChar_other (by simpa using hc (by decide)) ?_)
    exact .bind (.eatChar_other (by simpa using hc (by decide)) (hread false))

/-- The beginning of an end tag is one token. -/
theorem readToken_endTag (hrecord : Construct.ofRecord record = .text) {name : List Char}
    (hname : name ≠ []) (hchars : ∀ c ∈ name, isNameChar c = true) (passed ahead : List Char) :
    Reads (readToken record) passed [] (tagStart name true ++ '>' :: ahead) fun answer token' _ ↦
      answer = (some .tag, nameTag record name true) ∧ token' = tagStart name true := by
  refine readToken_tagStart hrecord hname hchars true passed fun c hc ↦ ?_
  exact Option.some.inj hc ▸ by decide

theorem readToken_tagEnd (hrecord : Construct.ofRecord record = .tag) (passed ahead : List Char) :
    Reads (readToken record) passed [] ('>' :: ahead) fun answer token' _ ↦
      answer = (some .tag, completeTag record) ∧ token' = ['>'] := by
  have hspace : isSpace '>' = false := by decide
  unfold readToken
  rw [hrecord]
  refine .bind (.eatWhile ?_)
  rw [List.takeWhile_cons, List.dropWhile_cons, hspace]
  refine .bind (.matchText (fun _ hno ↦ by simp at hno) fun _ ↦ ?_)
  exact .bind (.eatChar (fun _ _ ↦ .pure ⟨rfl, rfl⟩) fun hno ↦ absurd rfl hno)

/-! ## The mode -/

/-- The mode reads a token from the record that its state is. -/
theorem reads_mode (indentUnit : Nat)
    {post : Option TokenClass × Record → List Char → List Char → Prop}
    (h : Reads (readToken record) passed token ahead post) :
    Reads ((mode indentUnit).readToken (.record record)) passed token ahead
      fun answer token' ahead' ↦
        ∃ after, answer.2 = .record after ∧ post (answer.1, after) token' ahead' :=
  .bind (h.mono fun _ _ _ hpost ↦ .pure ⟨_, rfl, hpost⟩)

def KnowsTag (state : State) : Prop := ∃ record, state = .record record ∧ Named record

/-- Markup is steady, and within tags it knows their name. -/
theorem steady_knowsTag (indentUnit : Nat) : (mode indentUnit).Steady KnowsTag where
  start baseIndent := ⟨_, rfl, fun hinTag ↦ absurd hinTag (not_inTag_of_text rfl)⟩
  copy := by
    rintro _ ⟨record, rfl, _⟩
    rfl
  skipBlankLine _ _ := rfl
  readToken := by
    rintro _ ⟨record, rfl, hrecord⟩ passed ahead hahead
    have htakes := (steady_mode indentUnit).readToken _ ⟨record, rfl⟩ passed ahead hahead
    apply (htakes.and (reads_mode indentUnit (steps_readToken record passed ahead))).mono
    rintro answer token _ ⟨⟨htoken, _⟩, after, hafter, hstep⟩
    exact ⟨htoken, after, hafter, hstep.named hrecord⟩

end LineLexer.XmlGrammar
