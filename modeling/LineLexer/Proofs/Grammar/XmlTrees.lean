import LineLexer.Proofs.Grammar.XmlParts
import LineLexer.Proofs.Registry.Progress

/-!
# Element trees are followed

Every element tree is read without an error, wherever its line breaks are, and leaves the open
elements as it found them. Inside it the open elements are those whose start tag has been read and
whose end tag has not, so that the indentation counts them.
-/

namespace LineLexer.XmlGrammar

open Scan

variable {indentUnit : Nat} {record : Record} {ahead : List Char} {post : Record → Prop}
  {elements : List Field} {baseIndent : Int}

/-! ## Leaves -/

/-- A leaf that is no text leaves the open elements. -/
theorem leads_reference (entity : Reference) (hrecord : Content elements baseIndent record) :
    Leads indentUnit record (Leaf.reference entity).toText ahead (Content elements baseIndent) := by
  have hname : '\n' ∉ entity.name := fun hmem ↦ absurd (entity.chars '\n' hmem) (by decide)
  have hcall (passed : List Char) : Reads (readToken record) passed []
      ((Leaf.reference entity).toText ++ firstLine ahead)
      (Yields (some .atom, record) (Leaf.reference entity).toText) := by
    have hread := @reads_reference record passed (firstLine ahead) hrecord.text entity
    simpa [Leaf.toText] using hread
  exact .call (List.cons_ne_nil _ _) (by simp [Leaf.toText, hname]) (by simp) hcall hrecord

/-- A comment and its like leave the open elements. -/
theorem leads_enclosed (content : Enclosed) (hrecord : Content elements baseIndent record) :
    Leads indentUnit record (Leaf.enclosed content).toText ahead (Content elements baseIndent) := by
  obtain ⟨kind, body, hbody⟩ := content
  have hresumes := (resumes_enclosure hrecord.text kind.construct).content hrecord
  exact (encloses_enclosure hrecord.text kind).leads (by cases kind <;> decide)
    (by cases kind <;> decide) (by cases kind <;> decide) hresumes hresumes hbody

theorem leads_selfClosing (tag : Tag) (hrecord : Content elements baseIndent record) :
    Leads indentUnit record (Leaf.selfClosing tag).toText ahead (Content elements baseIndent) := by
  have hend : EndsTag (['/', '>'] ++ ahead) := endsTag_cons (by decide) _
  refine (tag.leads hrecord hend).append fun after hafter ↦ ?_
  exact .call (by simp) (by simp) (by simp) (fun _ ↦ reads_selfClosing hafter.tag) hafter.finishTag

/-! ## Text before what is read -/

/-- From every record in text content, and after any text that is still to be read, the mode reads
on and comes to a record with the property. Texts side by side are read together, so what comes
first is not always a part of its own. -/
def FromContent (indentUnit : Nat) (elements : List Field) (baseIndent : Int)
    (text ahead : List Char) (post : Record → Prop) : Prop :=
  ∀ pending record, (∀ c ∈ pending, isTextChar c = true) → Content elements baseIndent record →
    Leads indentUnit record (pending ++ text) ahead post

namespace FromContent

variable {text : List Char}

theorem leads (h : FromContent indentUnit elements baseIndent text ahead post)
    (hrecord : Content elements baseIndent record) : Leads indentUnit record text ahead post :=
  h [] record (List.forall_mem_nil _) hrecord

/-- Text ends where markup or a reference begins, or at the end. -/
theorem of_leads (hhead : ∀ c ∈ (text ++ ahead).head?, isTextChar c = false)
    (h : ∀ record, Content elements baseIndent record → Leads indentUnit record text ahead post) :
    FromContent indentUnit elements baseIndent text ahead post :=
  fun _ record hpending hrecord ↦
    (Leads.run (reads_text hrecord.text) hpending hhead).andThen (h record hrecord)

/-- A leaf before what is read. -/
theorem leaf (first : Leaf) (h : FromContent indentUnit elements baseIndent text ahead post) :
    FromContent indentUnit elements baseIndent (first.toText ++ text) ahead post := by
  have hmarkup {c : Char} {rest : List Char} (hc : isTextChar c = false)
      (hfirst : first.toText = c :: rest)
      (hleads : ∀ record, Content elements baseIndent record →
        Leads indentUnit record first.toText (text ++ ahead) (Content elements baseIndent)) :
      FromContent indentUnit elements baseIndent (first.toText ++ text) ahead post := by
    refine of_leads ?_ fun record hrecord ↦
      (hleads record hrecord).append fun after hafter ↦ h.leads hafter
    rw [hfirst]
    intro d hd
    exact Option.some.inj hd ▸ hc
  cases first with
  | text content =>
    intro pending record hpending hrecord
    rw [← List.append_assoc]
    exact h _ record (List.forall_mem_append.2 ⟨hpending, content.chars⟩) hrecord
  | reference entity => exact hmarkup (by decide) rfl fun _ ↦ leads_reference entity
  | enclosed content =>
    obtain ⟨kind, body, hbody⟩ := content
    cases kind <;> exact hmarkup (by decide) rfl fun _ ↦ leads_enclosed ⟨_, body, hbody⟩
  | selfClosing tag => exact hmarkup (by decide) rfl fun _ ↦ leads_selfClosing tag

/-- A start tag, and what is read with its element open. -/
theorem startTag (tag : Tag)
    (h : FromContent indentUnit (elements ++ [tag.name.field]) baseIndent text ahead post) :
    FromContent indentUnit elements baseIndent (tag.text ++ '>' :: text) ahead post := by
  refine of_leads (fun c hc ↦ Option.some.inj hc ▸ by decide) fun record hrecord ↦ ?_
  refine (tag.leads hrecord (endsTag_cons (by decide) _)).append fun after hafter ↦ ?_
  exact leads_tagEnd hafter.tag (h.leads hafter.completeStart)

end FromContent

/-! ## Forests -/

/-- An element before what is read, with its children known. -/
theorem FromContent.element (tag : Tag) {children : List Char} (gap : Blanks) {text : List Char}
    (hchildren : FromContent indentUnit (elements ++ [tag.name.field]) baseIndent children
      (endTag tag.name gap ++ text ++ ahead) (Content (elements ++ [tag.name.field]) baseIndent))
    (h : FromContent indentUnit elements baseIndent text ahead post) :
    FromContent indentUnit elements baseIndent
      (tag.text ++ '>' :: (children ++ (endTag tag.name gap ++ text))) ahead post := by
  refine .startTag tag fun pending record hpending hrecord ↦ ?_
  rw [← List.append_assoc]
  refine (hchildren pending record hpending hrecord).append fun between hbetween ↦ ?_
  exact (leads_endTag tag.name gap hbetween).append fun after hafter ↦ h.leads hafter

/-- A forest leaves the open elements as they were. -/
theorem Forest.fromContent (forest : Forest)
    (hahead : ∀ c ∈ ahead.head?, isTextChar c = false) :
    FromContent indentUnit elements baseIndent forest.toText ahead
      (Content elements baseIndent) := by
  induction forest generalizing elements ahead with
  | nil => exact .of_leads hahead fun record hrecord ↦ .done hrecord
  | leaf first siblings ih => exact .leaf first (ih hahead)
  | element tag children gap siblings ihChildren ihSiblings =>
    refine .element tag gap (ihChildren fun c hc ↦ ?_) (ihSiblings hahead)
    exact Option.some.inj hc ▸ by decide

/-- Up to the end of a start tag, the elements that it opens behind it are those of the tags before
it and its own. -/
theorem Opens.fromContent {forest : Forest} {before after : List Char} {names : List Name}
    (h : Opens forest before names after) :
    FromContent indentUnit elements baseIndent before ('>' :: ahead) fun record ↦
      ∃ outer name, names = outer ++ [name] ∧
        InTagOf name false (elements ++ outer.map Name.field) baseIndent record := by
  induction h generalizing elements with
  | here tag children gap siblings =>
    refine .of_leads (fun c hc ↦ Option.some.inj hc ▸ by decide) fun record hrecord ↦ ?_
    refine (tag.leads hrecord (endsTag_cons (by decide) _)).mono fun after hafter ↦ ?_
    exact ⟨[], tag.name, rfl, by simpa using hafter⟩
  | @inside tag _ _ _ _ _ names _ ih =>
    refine .startTag tag fun pending record hpending hrecord ↦ ?_
    refine (ih pending record hpending hrecord).mono ?_
    rintro after ⟨outer, name, rfl, hafter⟩
    exact ⟨tag.name :: outer, name, rfl, by simpa using hafter⟩
  | afterElement _ ih =>
    refine .element _ _ (Forest.fromContent _ fun c hc ↦ ?_) ih
    exact Option.some.inj hc ▸ by decide
  | afterLeaf _ ih => exact .leaf _ ih

/-! ## Documents -/

/-- A forest is read without errors, and leaves the open elements as they were. -/
theorem exists_runs_of_forest (hrecord : Content elements baseIndent record) (forest : Forest)
    (tabSize : Nat) :
    ∃ runs after,
      tokenizeLines (mode indentUnit) tabSize (.record record) (linesOf forest.toText) = .ok runs ∧
      NoErrors runs ∧ stateAfter (.record record) runs = .record after ∧
      Content elements baseIndent after := by
  have hend : ∀ c ∈ ([] : List Char).head?, isTextChar c = false := nofun
  obtain ⟨passed, after, hafter, htravels⟩ := (forest.fromContent hend).leads hrecord []
  rw [List.append_nil] at htravels
  obtain ⟨runs, hruns, hclean, hlast⟩ := htravels.exists_runs (fun _ ↦ rfl) rfl List.not_mem_nil
    (List.forall_mem_nil _) (.lineStart (mode indentUnit).readToken tabSize (.record record) _)
  exact ⟨runs, after, hruns, hclean, hlast, hafter⟩

/-- Behind a start tag its element is open, and so are those around it. -/
theorem Opens.exists_stateAt {forest : Forest} {before after : List Char} {names : List Name}
    (h : Opens forest before names after) (hrecord : Content elements baseIndent record)
    (tabSize : Nat) :
    ∃ between,
      StateAt (mode indentUnit) tabSize (.record record) (before ++ ['>']) after
        (.record between) ∧
      Content (elements ++ names.map Name.field) baseIndent between := by
  obtain ⟨passed, inside, ⟨outer, name, rfl, hinside⟩, htravels⟩ := h.fromContent.leads hrecord []
  have hread : Reads (readToken inside) passed [] (['>'] ++ firstLine after)
      (Yields (some .tag, completeTag inside) ['>']) := readToken_tagEnd hinside.tag passed _
  obtain ⟨pieces, last, hrest, _⟩ := (steady_mode indentUnit).exists_readsAs
    ⟨completeTag inside, rfl⟩ (passed ++ ['>']) (firstLine after)
  obtain ⟨earlier, hearlier, hstate⟩ := htravels.exists_stateAt (fun _ ↦ rfl) (by simp) (by simp)
    (readToken_mode hread) ⟨pieces, last, hrest⟩ List.not_mem_nil
    (.lineStart (mode indentUnit).readToken tabSize (.record record) _)
  obtain rfl : before = earlier := List.append_cancel_right hearlier
  refine ⟨completeTag inside, hstate, ?_⟩
  rw [List.map_append, ← List.append_assoc]
  exact hinside.completeStart

/-- In text content the indentation counts the open elements, but for an end tag. -/
theorem suggestIndent_content (hrecord : Content elements baseIndent record) {text : Line}
    (htext : ¬ ['<', '/'] <+: text) :
    (mode indentUnit).suggestIndent (.record record) text =
      some (baseIndent.toNat + elements.length * indentUnit) := by
  have hindent : (mode indentUnit).suggestIndent (.record record) text =
      suggestIndent indentUnit record text := rfl
  rw [hindent, suggestIndent, hrecord.text, hrecord.elements, hrecord.baseIndent]
  exact if_neg fun hprefix ↦ htext (List.isPrefixOf_iff_prefix.1 hprefix)

/-- From every state in text content every forest is read to its end without an error, and back to
text content with the elements open that were open before. Behind each start tag the open elements
are those and the elements of the forest around it, its own the innermost; the indentation of
content there counts them all. -/
theorem follows_element_trees (indentUnit tabSize : Nat) {state : State}
    (hstate : Reachable (mode indentUnit) state) :
    ∃ record : Record, state = .record record ∧
      (Construct.ofRecord record = .text → ∀ forest : Forest,
        (∃ (runs : List (List Token × State)) (after : Record),
          tokenizeLines (mode indentUnit) tabSize state (linesOf forest.toText) = .ok runs ∧
          NoErrors runs ∧ stateAfter state runs = .record after ∧
          Construct.ofRecord after = .text ∧ after.list "tagStack" = record.list "tagStack") ∧
        ∀ before names after, Opens forest before names after →
          forest.toText = before ++ '>' :: after ∧
          ∃ between : Record,
            StateAt (mode indentUnit) tabSize state (before ++ ['>']) after (.record between) ∧
            Construct.ofRecord between = .text ∧
            between.list "tagStack" = record.list "tagStack" ++ names.map Name.field ∧
            ∀ text, ¬ ['<', '/'] <+: text →
              (mode indentUnit).suggestIndent (.record between) text =
                some ((record.int "baseIndent").toNat +
                  ((record.list "tagStack").length + names.length) * indentUnit)) := by
  obtain ⟨record, rfl⟩ := (steady_mode indentUnit).fits hstate
  refine ⟨record, rfl, fun htext forest ↦ ⟨?_, fun before names after hopens ↦ ?_⟩⟩
  · obtain ⟨runs, after, hruns, hclean, hlast, hafter⟩ :=
      exists_runs_of_forest ⟨htext, rfl, rfl⟩ forest tabSize
    exact ⟨runs, after, hruns, hclean, hlast, hafter.text, hafter.elements⟩
  · obtain ⟨between, hbetween, hcontent⟩ := hopens.exists_stateAt ⟨htext, rfl, rfl⟩ tabSize
    refine ⟨hopens.toText_eq, between, hbetween, hcontent.text, hcontent.elements, ?_⟩
    intro text htext
    rw [suggestIndent_content hcontent htext, List.length_append, List.length_map]

/-- An element with a value over two lines, and text in it. -/
theorem follows_element_trees_value :
    Reachable (mode 2) ((mode 2).start 1) ∧
      ∃ (forest : Forest) (before after : List Char) (names : List Name),
        forest.toText = "<a k=\"x\ny\">t</a>".toList ∧ Opens forest before names after ∧
        (∃ runs, tokenizeLines (mode 2) 4 ((mode 2).start 1) (linesOf forest.toText) = .ok runs ∧
          NoErrors runs) ∧
        ∃ between, StateAt (mode 2) 4 ((mode 2).start 1) (before ++ ['>']) after
            (.record between) ∧
          (mode 2).suggestIndent (.record between) ['t'] = some 3 := by
  have hstate : Reachable (mode 2) ((mode 2).start 1) := .start 1
  let name : Name := ⟨['a'], by decide, List.forall_mem_singleton.2 rfl⟩
  let key : Name := ⟨['k'], by decide, List.forall_mem_singleton.2 rfl⟩
  let gap : Blanks := ⟨[' '], List.forall_mem_singleton.2 rfl⟩
  let value : Attribute := ⟨gap, by decide, key, '"', by decide, ['x', '\n', 'y'], by decide⟩
  let children : Forest := .leaf (.text ⟨['t'], List.forall_mem_singleton.2 rfl⟩) .nil
  obtain ⟨record, hrecord, hforest⟩ := follows_element_trees 2 4 hstate
  obtain rfl := State.record.inj hrecord
  let noGap : Blanks := ⟨[], List.forall_mem_nil _⟩
  let forest : Forest := .element ⟨name, [value], noGap⟩ children noGap .nil
  obtain ⟨⟨runs, _, hruns, hclean, _⟩, hopens⟩ := hforest rfl forest
  obtain ⟨_, between, hbetween, _, _, hindent⟩ := hopens _ _ _ (.here _ _ _ _)
  exact ⟨hstate, forest, _, _, _, by decide, .here _ _ _ _, ⟨runs, hruns, hclean⟩, between,
    hbetween, hindent ['t'] (by decide)⟩

end LineLexer.XmlGrammar
