import LineLexer.Proofs.Grammar.Tags
import LineLexer.Proofs.Grammar.XmlForest

/-!
# Tokens of element trees

What one call reads of each part of an element tree, up to the end of the part or of the line. A
part that a line break cuts off is left open in the state, and the call on the next line reads on in
it.
-/

namespace LineLexer.XmlGrammar

open Scan

abbrev Yields {α : Type} (answer : α) (text : List Char) : α → List Char → List Char → Prop :=
  fun found token _ ↦ found = answer ∧ token = text

/-! ## Characters -/

def blanks : List Char :=
  ['\t', '\n', '\x0b', '\x0c', '\r', ' ', '\u00a0', '\u1680', '\u2028', '\u2029', '\u202f',
    '\u205f', '\u3000', '\ufeff'] ++ (List.range' 0x2000 11).map Char.ofNat

/-- White space is one of a few characters. -/
theorem mem_blanks {c : Char} (h : isSpace c = true) : c ∈ blanks := by
  have hrange : '\u2000' ≤ c → c ≤ '\u200a' → c ∈ (List.range' 0x2000 11).map Char.ofNat := by
    intro hlow hhigh
    have hcode : c.toNat ∈ List.range' 0x2000 11 :=
      List.mem_range'_1.2 ⟨hlow, Nat.lt_succ_of_le hhigh⟩
    exact List.mem_map.2 ⟨c.toNat, hcode, Char.ofNat_toNat c⟩
  simp only [isSpace, Bool.or_eq_true, Bool.and_eq_true, decide_eq_true_eq] at h
  simp only [blanks, List.mem_append, List.mem_cons, List.not_mem_nil, or_false]
  grind

theorem isNameChar_of_isSpace {c : Char} (h : isSpace c = true) : isNameChar c = false := by
  have hblanks : blanks.all (fun blank ↦ !isNameChar blank) = true := by decide +kernel
  simpa using List.all_eq_true.1 hblanks c (mem_blanks h)

theorem isSpace_of_isNameChar {c : Char} (h : isNameChar c = true) : isSpace c = false := by
  cases hspace : isSpace c with
  | false => rfl
  | true =>
    rw [isNameChar_of_isSpace hspace] at h
    cases h

variable {record : Record} {passed token rest : List Char}

/-! ## Text content -/

/-- Text up to markup or a reference is one token without a class. -/
theorem reads_text (hrecord : Construct.ofRecord record = .text) {text : List Char}
    (htext : text ≠ []) (hchars : ∀ c ∈ text, isTextChar c = true)
    (hrest : ∀ c ∈ rest.head?, isTextChar c = false) :
    Reads (readToken record) passed [] (text ++ rest) (Yields (none, record) text) := by
  obtain ⟨c, text, rfl⟩ := List.exists_cons_of_ne_nil htext
  obtain ⟨hmarkup, hreference⟩ : c ≠ '<' ∧ c ≠ '&' := by
    simpa [isTextChar] using hchars c List.mem_cons_self
  unfold readToken
  rw [hrecord]
  refine .bind (.eatChar_other (by simpa using hmarkup) ?_)
  refine .bind (.eatChar_other (by simpa using hreference) ?_)
  exact .bind (.eatRun hchars hrest (.pure ⟨rfl, rfl⟩))

theorem reads_reference (hrecord : Construct.ofRecord record = .text) (entity : Reference) :
    Reads (readToken record) passed [] ('&' :: (entity.name ++ ';' :: rest))
      (Yields (some .atom, record) ('&' :: (entity.name ++ [';']))) := by
  have hchars : ∀ c ∈ entity.name, (isAlphanumeric c || c == '#') = true := fun c hc ↦ by
    rw [entity.chars c hc, Bool.true_or]
  have hend : ∀ c ∈ (';' :: rest).head?, (isAlphanumeric c || c == '#') = false := by
    intro c hc
    exact Option.some.inj hc ▸ by decide
  unfold readToken
  rw [hrecord]
  refine .bind (.eatChar_other (by simp) ?_)
  refine .bind (.eatChar_self ?_)
  refine .bind (.eatRun hchars hend ?_)
  exact .bind (.eatChar_self (.pure ⟨rfl, by simp⟩))

/-! ## Enclosures -/

/-- What has a terminator on its line is one token, and text follows. -/
theorem reads_readUntil_found {terminator body : List Char} {cls : TokenClass}
    (hoffset : offsetOf? terminator (body ++ (terminator ++ rest)) = some (byteLength body)) :
    Reads (readUntil record terminator cls) passed token (body ++ (terminator ++ rest))
      (Yields (some cls, setConstruct record .text) (token ++ (body ++ terminator))) := by
  refine .bind (.skipToText_found hoffset ?_)
  exact .bind (.advance rfl (.pure ⟨rfl, by simp⟩))

/-- Without a terminator the rest of the line is one token. -/
theorem reads_readUntil_missing {terminator body : List Char} {cls : TokenClass}
    (hoffset : offsetOf? terminator body = none) :
    Reads (readUntil record terminator cls) passed token body
      (Yields (some cls, record) (token ++ body)) := by
  refine .bind (.skipToText_missing hoffset ?_)
  exact .bind (.skipToEnd (.pure ⟨rfl, rfl⟩))

/-- What an enclosure is read with once it is open. -/
theorem readToken_enclosure {kind : Enclosure}
    (hrecord : Construct.ofRecord record = kind.construct) :
    readToken record = readUntil record kind.terminator kind.cls := by
  unfold readToken
  rw [hrecord]
  cases kind <;> rfl

/-- Behind its opener a construct is read up to its terminator. -/
theorem reads_opener (hrecord : Construct.ofRecord record = .text) {kind : Enclosure}
    {post : Option TokenClass × Record → List Char → List Char → Prop}
    (h : Reads (readUntil (setConstruct record kind.construct) kind.terminator kind.cls) passed
      kind.opener rest post) :
    Reads (readToken record) passed [] (kind.opener ++ rest) post := by
  unfold readToken
  rw [hrecord]
  cases kind with
  | comment =>
    refine .bind (.eatChar_self ?_)
    exact .bind (.matchText_self h)
  | characterData =>
    refine .bind (.eatChar_self ?_)
    refine .bind (.matchText_other (by simp) ?_)
    exact .bind (.matchText_self h)
  | instruction =>
    refine .bind (.eatChar_self ?_)
    refine .bind (.matchText_other (by simp) ?_)
    refine .bind (.matchText_other (by simp) ?_)
    exact .bind (.eatChar_self h)

/-- The last character of a terminator occurs in it once, so no part of it is mistaken for it. -/
theorem offsetOf?_terminator (kind : Enclosure) {body : List Char}
    (hbody : ¬ kind.terminator <:+: body) (rest : List Char) :
    offsetOf? kind.terminator (body ++ (kind.terminator ++ rest)) = some (byteLength body) := by
  cases kind with
  | comment => exact @offsetOf?_append ['-', '-'] body '>' (by decide) hbody rest
  | characterData => exact @offsetOf?_append [']', ']'] body '>' (by decide) hbody rest
  | instruction => exact @offsetOf?_append ['?'] body '>' (by decide) hbody rest

/-! ## Tags -/

theorem reads_blanks (hrecord : Construct.ofRecord record = .tag) {text : List Char}
    (htext : text ≠ []) (hchars : ∀ c ∈ text, isSpace c = true)
    (hrest : ∀ c ∈ rest.head?, isSpace c = false) :
    Reads (readToken record) passed [] (text ++ rest) (Yields (none, record) text) := by
  unfold readToken
  rw [hrecord]
  refine .bind (.eatRun hchars hrest ?_)
  rw [if_pos (by simpa using htext)]
  exact .pure ⟨rfl, rfl⟩

/-- The beginning of a tag is followed by a character that no name has. -/
theorem reads_tagStart (hrecord : Construct.ofRecord record = .text) (name : Name) (closing : Bool)
    (hrest : ∀ c ∈ rest.head?, isNameChar c = false) :
    Reads (readToken record) passed [] (tagStart name.text closing ++ rest)
      (Yields (some .tag, nameTag record name.text closing) (tagStart name.text closing)) :=
  readToken_tagStart hrecord name.ne_nil name.chars closing passed hrest

theorem reads_attributeName (hrecord : Construct.ofRecord record = .tag) (name : Name)
    (hrest : ∀ c ∈ rest.head?, isNameChar c = false) :
    Reads (readToken record) passed [] (name.text ++ rest)
      (Yields (some .attributeName, record) name.text) := by
  obtain ⟨text, hne, hchars⟩ := name
  obtain ⟨c, text, rfl⟩ := List.exists_cons_of_ne_nil hne
  have hc := hchars c List.mem_cons_self
  have hother {other : Char} (hother : isNameChar other = false) :
      (c :: text ++ rest).head? ≠ some other := by
    simpa using ne_of_isNameChar hc hother
  have hslash : '/' ≠ c := (ne_of_isNameChar hc (by decide)).symm
  have hquotes : ∀ d ∈ (c :: text ++ rest).head?, (d == '"' || d == '\'') = false := by
    intro d hd
    obtain rfl : c = d := Option.some.inj hd
    have hquote : c ≠ '"' := ne_of_isNameChar hc (by decide)
    have hsingle : c ≠ '\'' := ne_of_isNameChar hc (by decide)
    simp [hquote, hsingle]
  unfold readToken
  rw [hrecord]
  refine .bind (.eatRun_nil (by simpa using isSpace_of_isNameChar hc) ?_)
  refine .bind (.matchText_other (by simp [hslash]) ?_)
  refine .bind (.eatChar_other (hother (by decide)) ?_)
  refine .bind (.eatChar_other (hother (by decide)) ?_)
  refine .bind (.eat_other hquotes ?_)
  exact .bind (.eatRun hchars hrest (.pure ⟨rfl, rfl⟩))

theorem reads_equals (hrecord : Construct.ofRecord record = .tag) :
    Reads (readToken record) passed [] ('=' :: rest) (Yields (some .operator, record) ['=']) := by
  unfold readToken
  rw [hrecord]
  refine .bind (.eatRun_nil (by simp [isSpace]) ?_)
  refine .bind (.matchText_other (by simp) ?_)
  refine .bind (.eatChar_other (by simp) ?_)
  exact .bind (.eatChar_self (.pure ⟨rfl, rfl⟩))

/-- The end of an empty element is one token, and finishes the tag. -/
theorem reads_selfClosing (hrecord : Construct.ofRecord record = .tag) :
    Reads (readToken record) passed [] ('/' :: '>' :: rest)
      (Yields (some .tag, finishTag record) ['/', '>']) := by
  unfold readToken
  rw [hrecord]
  refine .bind (.eatRun_nil (by simp [isSpace]) ?_)
  exact .bind (.matchText_self (.pure ⟨rfl, rfl⟩))

/-! ## Values of attributes -/

/-- What follows the opening quote of a value. -/
theorem reads_quoted (hrecord : Construct.ofRecord record = .tag) {quote : Char}
    (hquote : quote ∈ ['"', '\''])
    {post : Option TokenClass × Record → List Char → List Char → Prop}
    (h : Reads (do
      if ← skipTo quote then
        let _ ← next
        return (some TokenClass.string, record)
      else
        skipToEnd
        let quoted : Record := record.insert "quote" (.str (String.singleton quote))
        return (some TokenClass.string, setConstruct quoted .value)) passed [quote] rest post) :
    Reads (readToken record) passed [] (quote :: rest) post := by
  simp only [List.mem_cons, List.not_mem_nil, or_false] at hquote
  have hspace : isSpace quote = false := by rcases hquote with rfl | rfl <;> decide
  have hslash : '/' ≠ quote := by rcases hquote with rfl | rfl <;> decide
  have hend : quote ≠ '>' := by rcases hquote with rfl | rfl <;> decide
  have hequals : quote ≠ '=' := by rcases hquote with rfl | rfl <;> decide
  unfold readToken
  rw [hrecord]
  refine .bind (.eatRun_nil (by simpa using hspace) ?_)
  refine .bind (.matchText_other (by simp [hslash]) ?_)
  refine .bind (.eatChar_other (by simpa using hend) ?_)
  refine .bind (.eatChar_other (by simpa using hequals) ?_)
  exact .bind (.eat_self (by simpa using hquote) h)

/-- The delimiter of a value that is open is the one it began with. -/
theorem readToken_openValue {quote : Char} (hrecord : Construct.ofRecord record = .value)
    (hquote : record.str? "quote" = some (String.singleton quote)) :
    readToken record = (do
      if ← skipTo quote then
        let _ ← next
        let closed : Record := record.erase "quote"
        return (some .string, setConstruct closed .tag)
      else
        skipToEnd
        return (some .string, record)) := by
  have hdelimiter : ((record.str? "quote").bind (·.toList.head?)).getD '"' = quote := by
    rw [hquote]
    simp
  unfold readToken
  rw [hrecord]
  unfold readValue
  rw [hdelimiter]

/-! ## Parts over several lines -/

/-- A part is read from an opener to a terminator: on one line from `record` to `closed`, and over
several lines by way of `opened` to `resumed`. -/
structure Encloses (opener terminator : List Char) (cls : TokenClass)
    (record closed opened resumed : Record) : Prop where
  whole : ∀ {passed body rest : List Char}, ¬ terminator <:+: body →
    Reads (readToken record) passed [] (opener ++ (body ++ (terminator ++ rest)))
      (Yields (some cls, closed) (opener ++ (body ++ terminator)))
  begins : ∀ {passed body : List Char}, ¬ terminator <:+: body →
    Reads (readToken record) passed [] (opener ++ body) (Yields (some cls, opened) (opener ++ body))
  ends : ∀ {passed body rest : List Char}, ¬ terminator <:+: body →
    Reads (readToken opened) passed [] (body ++ (terminator ++ rest))
      (Yields (some cls, resumed) (body ++ terminator))
  goesOn : ∀ {passed body : List Char}, ¬ terminator <:+: body →
    Reads (readToken opened) passed [] body (Yields (some cls, opened) body)

/-- Comments, character data, instructions and declarations are read from opener to terminator, over
lines if need be. -/
theorem encloses_enclosure (hrecord : Construct.ofRecord record = .text) (kind : Enclosure) :
    Encloses kind.opener kind.terminator kind.cls record
      (setConstruct (setConstruct record kind.construct) .text) (setConstruct record kind.construct)
      (setConstruct (setConstruct record kind.construct) .text) where
  whole hbody := reads_opener hrecord (reads_readUntil_found (offsetOf?_terminator kind hbody _))
  begins hbody := reads_opener hrecord (reads_readUntil_missing (offsetOf?_eq_none hbody))
  ends hbody := by
    rw [readToken_enclosure (ofRecord_setConstruct record kind.construct)]
    exact reads_readUntil_found (offsetOf?_terminator kind hbody _)
  goesOn hbody := by
    rw [readToken_enclosure (ofRecord_setConstruct record kind.construct)]
    exact reads_readUntil_missing (offsetOf?_eq_none hbody)

def openValue (record : Record) (quote : Char) : Record :=
  setConstruct (record.insert "quote" (.str (String.singleton quote))) .value

theorem ofRecord_openValue (record : Record) (quote : Char) :
    Construct.ofRecord (openValue record quote) = .value := ofRecord_setConstruct _ _

theorem str?_quote_openValue (record : Record) (quote : Char) :
    (openValue record quote).str? "quote" = some (String.singleton quote) := by
  rw [openValue, Record.str?, find?_setConstruct _ _ (by decide), Table.find?_insert, if_pos rfl]

/-- Quoted values are read from quote to quote, over lines if need be. -/
theorem encloses_value (hrecord : Construct.ofRecord record = .tag) {quote : Char}
    (hquote : quote ∈ ['"', '\'']) :
    Encloses [quote] [quote] .string record record (openValue record quote)
      (setConstruct ((openValue record quote).erase "quote") .tag) := by
  have hread := readToken_openValue (ofRecord_openValue record quote)
    (str?_quote_openValue record quote)
  have hfound {body rest : List Char} (hbody : ¬ [quote] <:+: body) :
      offsetOf? [quote] (body ++ ([quote] ++ rest)) = some (byteLength body) :=
    @offsetOf?_append [] body quote List.not_mem_nil hbody rest
  refine ⟨fun hbody ↦ reads_quoted hrecord hquote ?_, fun hbody ↦ reads_quoted hrecord hquote ?_,
    fun hbody ↦ ?_, fun hbody ↦ ?_⟩
  · refine .bind (.skipToText_found (hfound hbody) ?_)
    exact .bind (.eat_self rfl (.pure ⟨rfl, by simp⟩))
  · refine .bind (.skipToText_missing (offsetOf?_eq_none hbody) ?_)
    exact .bind (.skipToEnd (.pure ⟨rfl, rfl⟩))
  · rw [hread]
    refine .bind (.skipToText_found (hfound hbody) ?_)
    exact .bind (.eat_self rfl (.pure ⟨rfl, rfl⟩))
  · rw [hread]
    refine .bind (.skipToText_missing (offsetOf?_eq_none hbody) ?_)
    exact .bind (.skipToEnd (.pure ⟨rfl, rfl⟩))

end LineLexer.XmlGrammar
