import LineLexer.Grammar.Html
import LineLexer.Proofs.Highlight.Steady

/-!
# Progress in HTML

Over steady modes of markup and scripts the mode of documents is steady. A script token that runs
into the end of the script gives back what is the end tag's, but never its first character: where
the end of a script begins a token, the token is the document's.
-/

namespace LineLexer

/-! ## Lower case -/

theorem utf8Size_eq_one_of_toNat_lt {c : Char} (h : c.toNat < 128) : c.utf8Size = 1 := by
  rw [Char.utf8Size_eq_one_iff, UInt32.le_iff_toNat_le]
  exact Nat.le_of_lt_succ h

theorem toNat_ofNat_of_capital {c : Char} (h : 'A' ≤ c ∧ c ≤ 'Z') :
    c.toNat ≤ 90 ∧ (Char.ofNat (c.toNat + 32)).toNat = c.toNat + 32 := by
  have hlast : c.toNat ≤ 90 := h.2
  have hvalid : (c.toNat + 32).isValidChar := .inl (by omega)
  refine ⟨hlast, ?_⟩
  rw [Char.ofNat, dif_pos hvalid]
  rfl

/-- Lowering a letter keeps its length in bytes. -/
theorem utf8Size_asciiLower (c : Char) : (asciiLower c).utf8Size = c.utf8Size := by
  unfold asciiLower
  split
  · rename_i hupper
    obtain ⟨hlast, hlower⟩ := toNat_ofNat_of_capital hupper
    rw [utf8Size_eq_one_of_toNat_lt (show c.toNat < 128 by omega),
      utf8Size_eq_one_of_toNat_lt (by omega)]
  · rfl

/-- A letter comes from itself or from its capital. -/
theorem eq_of_asciiLower_eq {c d : Char} (h : asciiLower c = d) :
    c = d ∨ c = Char.ofNat (d.toNat - 32) := by
  unfold asciiLower at h
  split at h
  · rename_i hupper
    rw [← h, (toNat_ofNat_of_capital hupper).2, Nat.add_sub_cancel, Char.ofNat_toNat]
    exact .inr rfl
  · exact .inl h

theorem byteLength_map_asciiLower (text : List Char) :
    byteLength (text.map asciiLower) = byteLength text := by
  induction text with
  | nil => rfl
  | cons c text ih => rw [List.map_cons, byteLength_cons, byteLength_cons, ih, utf8Size_asciiLower]

/-- An occurrence in lower case is an occurrence up to case, at a boundary of the text. -/
theorem offsetOf?_map_asciiLower {wanted text : List Char} {offset : Nat}
    (h : offsetOf? wanted (text.map asciiLower) = some offset) :
    ∃ before found after, text = before ++ (found ++ after) ∧ byteLength before = offset ∧
      found.map asciiLower = wanted := by
  obtain ⟨lowered, rest, htext, hoffset⟩ := offsetOf?_eq_some h
  obtain ⟨before, others, rfl, rfl, hothers⟩ := List.map_eq_append_iff.1 htext
  obtain ⟨found, after, rfl, hfound, _⟩ := List.map_eq_append_iff.1 hothers
  rw [byteLength_map_asciiLower] at hoffset
  exact ⟨before, found, after, rfl, hoffset, hfound⟩

/-- Where there is an occurrence, the first one is no later. -/
theorem offsetOf?_append_le {wanted : List Char} (hwanted : wanted ≠ [])
    (before after : List Char) :
    ∃ offset, offsetOf? wanted (before ++ (wanted ++ after)) = some offset ∧
      offset ≤ byteLength before := by
  induction before with
  | nil =>
    obtain ⟨c, wanted, rfl⟩ := List.exists_cons_of_ne_nil hwanted
    have hprefix : (c :: wanted).isPrefixOf (c :: (wanted ++ after)) = true :=
      List.isPrefixOf_iff_prefix.2 (List.prefix_append (c :: wanted) after)
    exact ⟨0, if_pos hprefix, Nat.le_refl 0⟩
  | cons c before ih =>
    obtain ⟨offset, hoffset, hle⟩ := ih
    rw [List.cons_append, offsetOf?]
    split
    · exact ⟨0, rfl, Nat.zero_le _⟩
    · refine ⟨offset + c.utf8Size, by rw [hoffset]; rfl, ?_⟩
      rw [byteLength_cons]
      omega

namespace HtmlGrammar

open Scan Outcome

/-! ## The end of a script -/

theorem scriptEnd_eq : scriptEnd = "</script".toList := rfl

theorem scriptEnd_ne_nil : scriptEnd ≠ [] := by decide

/-- The text begins with the end of a script, in upper or lower case. -/
def BeginsScriptEnd (text : List Char) : Prop :=
  ∃ tag after, text = tag ++ after ∧ tag.map asciiLower = "</script".toList

/-- The grammar looks for the end of a script in either case. -/
theorem startsWithIgnoringCase_iff {text : List Char} :
    startsWithIgnoringCase scriptEnd text = true ↔ BeginsScriptEnd text := by
  have hlower : scriptEnd.map asciiLower = scriptEnd := by decide
  rw [startsWithIgnoringCase, eqIgnoringAsciiCase, beq_iff_eq, hlower]
  constructor
  · intro htake
    exact ⟨text.take scriptEnd.length, text.drop scriptEnd.length,
      (List.take_append_drop _ _).symm, htake⟩
  · rintro ⟨tag, after, rfl, htag⟩
    rw [← scriptEnd_eq] at htag
    have hlength : scriptEnd.length = tag.length := by rw [← htag, List.length_map]
    rw [hlength, List.take_left, htag]

instance (text : List Char) : Decidable (BeginsScriptEnd text) :=
  decidable_of_iff _ startsWithIgnoringCase_iff

/-- A script ends no later than where its end is first found. -/
theorem le_of_beginsScriptEnd {before after : List Char} {offset : Nat} (h : BeginsScriptEnd after)
    (hoffset : offsetOf? scriptEnd ((before ++ after).map asciiLower) = some offset) :
    offset ≤ byteLength before := by
  obtain ⟨tag, rest, rfl, htag⟩ := h
  rw [← scriptEnd_eq] at htag
  obtain ⟨first, hfirst, hle⟩ :=
    offsetOf?_append_le scriptEnd_ne_nil (before.map asciiLower) (rest.map asciiLower)
  rw [byteLength_map_asciiLower] at hle
  rw [List.map_append, List.map_append, htag, hfirst] at hoffset
  cases hoffset
  exact hle

/-- Where no end of a script is found there is none. -/
theorem not_beginsScriptEnd_of_offsetOf?_eq_none {before after : List Char}
    (h : offsetOf? scriptEnd ((before ++ after).map asciiLower) = none) :
    ¬ BeginsScriptEnd after := by
  rintro ⟨tag, rest, rfl, htag⟩
  rw [← scriptEnd_eq] at htag
  obtain ⟨first, hfirst, _⟩ :=
    offsetOf?_append_le scriptEnd_ne_nil (before.map asciiLower) (rest.map asciiLower)
  rw [List.map_append, List.map_append, htag, hfirst] at h
  cases h

/-- What is left of a token when it gives back all from the end of the script on: the end of a
script begins where the token ends, or nothing was given back, and none begins inside it. -/
structure CutToken (token token' ahead' : List Char) : Prop where
  ne_nil : token' ≠ []
  kept : token' <+: token
  ends : token' = token ∨ BeginsScriptEnd ahead'
  inside : ∀ before after, token' = before ++ after → before ≠ [] → after ≠ [] →
    ¬ BeginsScriptEnd (after ++ ahead')

/-- A token in which no end of a script begins is left as it is. -/
theorem CutToken.whole {token ahead : List Char} (htoken : token ≠ [])
    (hinside : ∀ first second, token = first ++ second → second ≠ [] →
      ¬ BeginsScriptEnd (second ++ ahead)) : CutToken token token ahead :=
  ⟨htoken, List.prefix_rfl, .inl rfl, fun first second hcut _ ↦ hinside first second hcut⟩

section BackUp

variable {base : Cursor} {hidden passed token ahead : List Char}

theorem sliceFrom_start_placed :
    sliceFrom (base.placed hidden passed token ahead).line
      (base.placed hidden passed token ahead).start = .ok (token ++ ahead) := by
  have hslice := sliceFrom_append (hidden ++ passed) (token ++ ahead)
  simpa [Cursor.placed] using hslice

/-- Without an end of a script inside the token the cursor stays. -/
theorem backUpBeforeScriptEnd_placed_whole
    (h : ∀ offset, offsetOf? scriptEnd ((token ++ ahead).map asciiLower) = some offset →
      byteLength token ≤ offset) :
    backUpBeforeScriptEnd (base.placed hidden passed token ahead) =
      .ok ((), base.placed hidden passed token ahead) := by
  cases hoffset : offsetOf? scriptEnd ((token ++ ahead).map asciiLower) with
  | none =>
    simp only [backUpBeforeScriptEnd, bind_apply, get_apply, ok_bind, lift_apply,
      sliceFrom_start_placed, hoffset, pure_apply]
  | some offset =>
    have houtside : ¬ (0 < offset ∧
        (base.placed hidden passed token ahead).start + offset <
          (base.placed hidden passed token ahead).pos) := by
      have hle := h offset hoffset
      simp only [Cursor.placed]
      omega
    simp only [backUpBeforeScriptEnd, bind_apply, get_apply, ok_bind, lift_apply,
      sliceFrom_start_placed, hoffset, if_neg houtside, pure_apply]

/-- The token gives back all from the first end of a script on. -/
theorem backUpBeforeScriptEnd_placed_given {before given : List Char} (hbefore : before ≠ [])
    (hgiven : given ≠ [])
    (h : offsetOf? scriptEnd ((before ++ given ++ ahead).map asciiLower) =
      some (byteLength before)) :
    backUpBeforeScriptEnd (base.placed hidden passed (before ++ given) ahead) =
      .ok ((), base.placed hidden passed before (given ++ ahead)) := by
  have hinside : 0 < byteLength before ∧
      (base.placed hidden passed (before ++ given) ahead).start + byteLength before <
        (base.placed hidden passed (before ++ given) ahead).pos := by
    have hpos := byteLength_pos_iff.2 hbefore
    have hlength := byteLength_pos_iff.2 hgiven
    simp only [Cursor.placed, byteLength_append]
    omega
  have hslice : slice (base.placed hidden passed (before ++ given) ahead).line
      ((base.placed hidden passed (before ++ given) ahead).start + byteLength before)
      (base.placed hidden passed (before ++ given) ahead).pos = .ok given := by
    have hcut := slice_append (hidden ++ (passed ++ before)) given ahead
    simpa [Cursor.placed, Nat.add_assoc] using hcut
  simp only [backUpBeforeScriptEnd, bind_apply, get_apply, ok_bind, lift_apply,
    sliceFrom_start_placed, h, if_pos hinside, hslice, backUp_placed]

end BackUp

/-- Where the occurrence lies inside the token, what is given back is the rest of the token. -/
theorem backUpBeforeScriptEnd_reads (passed : List Char) {token : List Char} (htoken : token ≠ [])
    {ahead : List Char} (hbegin : ¬ BeginsScriptEnd (token ++ ahead)) :
    Reads backUpBeforeScriptEnd passed token ahead fun _ token' ahead' ↦
      CutToken token token' ahead' := by
  cases hoffset : offsetOf? scriptEnd ((token ++ ahead).map asciiLower) with
  | none =>
    have hinside (first second : List Char) (hcut : token = first ++ second) (_ : second ≠ []) :
        ¬ BeginsScriptEnd (second ++ ahead) := by
      rw [hcut, List.append_assoc] at hoffset
      exact not_beginsScriptEnd_of_offsetOf?_eq_none hoffset
    refine ⟨(), token, ahead, rfl, .whole htoken hinside, fun base hidden ↦ ?_⟩
    apply backUpBeforeScriptEnd_placed_whole
    intro offset hfound
    rw [hoffset] at hfound
    cases hfound
  | some offset =>
    obtain ⟨before, tag, after, htext, rfl, htag⟩ := offsetOf?_map_asciiLower hoffset
    have hfirst (other rest : List Char) (hcut : token ++ ahead = other ++ rest)
        (hrest : BeginsScriptEnd rest) : byteLength before ≤ byteLength other := by
      rw [hcut] at hoffset
      exact le_of_beginsScriptEnd hrest hoffset
    have hbefore : before ≠ [] := by
      rintro rfl
      exact hbegin ⟨tag, after, htext, htag⟩
    by_cases hinside : byteLength before < byteLength token
    · obtain ⟨given, rfl, hgiven⟩ : ∃ given, token = before ++ given ∧
          tag ++ after = given ++ ahead := by
        rcases List.append_eq_append_iff.1 htext with ⟨more, rfl, _⟩ | hgiven
        · rw [byteLength_append] at hinside
          omega
        · exact hgiven
      have hne : given ≠ [] := by
        rintro rfl
        simp at hinside
      have hcutToken : CutToken (before ++ given) before (given ++ ahead) := by
        have hend : BeginsScriptEnd (given ++ ahead) := ⟨tag, after, hgiven.symm, htag⟩
        refine ⟨hbefore, List.prefix_append _ _, .inr hend, ?_⟩
        rintro first second rfl _ hsecond hend
        have hle := hfirst first (second ++ (given ++ ahead)) (by simp) hend
        have hlength := byteLength_pos_iff.2 hsecond
        rw [byteLength_append] at hle
        omega
      exact ⟨(), before, given ++ ahead, by simp, hcutToken, fun base hidden ↦
        backUpBeforeScriptEnd_placed_given hbefore hne hoffset⟩
    · have hoverlap (first second : List Char) (hcut : token = first ++ second)
          (hsecond : second ≠ []) : ¬ BeginsScriptEnd (second ++ ahead) := by
        intro hend
        have hle := hfirst first (second ++ ahead) (by simp [hcut]) hend
        have hlength := byteLength_pos_iff.2 hsecond
        rw [hcut, byteLength_append] at hinside
        omega
      refine ⟨(), token, ahead, rfl, .whole htoken hoverlap, fun base hidden ↦ ?_⟩
      apply backUpBeforeScriptEnd_placed_whole
      intro offset hfound
      rw [hoffset] at hfound
      cases hfound
      exact Nat.le_of_not_lt hinside

/-! ## States -/

/-- The innermost open element of a document in text content is a script. -/
def ScriptOpen (outer : State) : Prop :=
  (XmlGrammar.openElement? outer).any (fun name ↦ eqIgnoringAsciiCase name.toList "script".toList) =
    true

/-- A script is opened in a script element only. -/
theorem forward_opensScript (cls : Option TokenClass) (outer : State) :
    Forward (opensScript cls outer) fun opened ↦ opened = true → ScriptOpen outer := by
  refine .ite (Forward.current.andThen fun text ↦ .pure fun hopened ↦ ?_) (.pure nofun)
  exact (Bool.and_eq_true_iff.1 hopened).2

def documentState (outer : State) : State := .record (.ofList [("html", .state outer)])

def scriptState (outer inside : State) : State :=
  .record (.ofList [("html", .state outer), ("local", .state inside)])

/-- Inside the markup or a script, each in a state that fits its mode. Around a script, the markup
stays where the script was opened. -/
inductive Fits (MarkupFits ScriptFits : State → Prop) : State → Prop where
  | document {outer : State} (houter : MarkupFits outer) :
      Fits MarkupFits ScriptFits (documentState outer)
  | script {outer inside : State} (houter : MarkupFits outer) (hopen : ScriptOpen outer)
      (hinside : ScriptFits inside) : Fits MarkupFits ScriptFits (scriptState outer inside)

variable {html script : Mode} {MarkupFits ScriptFits : State → Prop}

theorem takes_readDocument (hhtml : html.Steady MarkupFits) (hscript : script.Steady ScriptFits)
    {outer : State} (houter : MarkupFits outer) :
    Takes (readDocument html script (.ofList [("html", .state outer)])) fun answer ↦
      Fits MarkupFits ScriptFits (.record answer.2) := by
  apply (hhtml.readToken outer houter).bind
  intro (cls, after) hafter
  apply (forward_opensScript cls after).bind
  intro opened hopened
  cases opened with
  | true => exact .pure (.script hafter (hopened rfl) (hscript.start _))
  | false => exact .pure (.document hafter)

/-- A call takes something in markup and in scripts, up to the end of the script included. -/
theorem takes_readToken (hhtml : html.Steady MarkupFits) (hscript : script.Steady ScriptFits)
    {record : Record} (h : Fits MarkupFits ScriptFits (.record record)) :
    Takes (readToken html script record) fun answer ↦
      Fits MarkupFits ScriptFits (.record answer.2) := by
  generalize hstate : State.record record = state at h
  cases h with
  | document houter =>
    obtain rfl := State.record.inj hstate
    exact takes_readDocument hhtml hscript houter
  | @script outer inside houter hopen hinside =>
    obtain rfl := State.record.inj hstate
    intro passed ahead hahead
    refine .bind (.rest ?_)
    split
    · exact takes_readDocument hhtml hscript houter passed ahead hahead
    · rename_i hbegin
      obtain ⟨⟨cls, after⟩, token, ahead', hline, ⟨htoken, hafter⟩, hrun⟩ :=
        hscript.readToken inside hinside passed ahead hahead
      have hnot : ¬ BeginsScriptEnd (token ++ ahead') := by
        rw [hline]
        exact mt startsWithIgnoringCase_iff.2 hbegin
      refine .bind ⟨(cls, after), token, ahead', hline, ?_, hrun⟩
      refine .bind ((backUpBeforeScriptEnd_reads passed htoken hnot).mono ?_)
      intro _ token' _ hcut
      exact .pure ⟨hcut.ne_nil, .script houter hopen hafter⟩

/-- Over steady modes of markup and of scripts documents are steady. -/
theorem steady_mode (hhtml : html.Steady MarkupFits) (hscript : script.Steady ScriptFits) :
    (mode html script).Steady (Fits MarkupFits ScriptFits) where
  start baseIndent := .document (hhtml.start baseIndent)
  copy := by
    intro state hstate
    cases hstate with
    | @document outer houter =>
      change documentState (html.copy outer) = _
      rw [hhtml.copy outer houter]
    | @script outer inside houter hopen hinside =>
      change scriptState (html.copy outer) (script.copy inside) = _
      rw [hhtml.copy outer houter, hscript.copy inside hinside]
  skipBlankLine _ _ := rfl
  readToken := by
    intro state hstate
    obtain ⟨record, rfl⟩ : ∃ record, state = .record record := by
      cases hstate <;> exact ⟨_, rfl⟩
    exact (takes_readToken hhtml hscript hstate).bind fun _ hanswer ↦ .pure hanswer

end HtmlGrammar

end LineLexer
