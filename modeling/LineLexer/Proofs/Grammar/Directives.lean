import LineLexer.Proofs.Grammar.CFamily

/-!
# Directives of the C family

A `#` begins a directive where only white space stands before it on the visible part of the line.
That test uses the standard's white space, while the blanks before the `#` are passed by the blanks
of scanning. The two differ in two characters: a byte order mark is passed but hides a directive,
and a next-line control is no blank but hides none.
-/

namespace LineLexer.CFamily

open Scan

/-! ## Two kinds of blanks -/

/-- The control characters that count as blanks are five. -/
theorem mem_controls_iff (c : Char) :
    '\t' ≤ c ∧ c ≤ '\r' ↔ c ∈ ['\t', '\n', '\x0b', '\x0c', '\r'] := by
  constructor
  · rintro ⟨hlow, hhigh⟩
    have hcode : c.toNat ∈ [9, 10, 11, 12, 13] := by
      have hlow' : 9 ≤ c.toNat := hlow
      have hhigh' : c.toNat ≤ 13 := hhigh
      simp only [List.mem_cons, List.not_mem_nil, or_false]
      omega
    rw [← Char.ofNat_toNat c]
    have hall : ∀ code ∈ [9, 10, 11, 12, 13],
        Char.ofNat code ∈ ['\t', '\n', '\x0b', '\x0c', '\r'] := by decide
    exact hall _ hcode
  · intro hmem
    simp only [List.mem_cons, List.not_mem_nil, or_false] at hmem
    rcases hmem with rfl | rfl | rfl | rfl | rfl <;> decide

/-- The blanks of scanning are the standard's white space, apart from the byte order mark and the
next-line control. -/
theorem isSpace_eq_isWhiteSpace {c : Char} (hmark : c ≠ '\ufeff') (hnext : c ≠ '\u0085') :
    isSpace c = isWhiteSpace c := by
  have hcontrols : (decide ('\t' ≤ c) && decide (c ≤ '\r')) =
      (c = '\t' || c = '\n' || c = '\x0b' || c = '\x0c' || c = '\r') := by
    rw [Bool.eq_iff_iff]
    simpa [or_assoc] using mem_controls_iff c
  unfold isSpace isWhiteSpace
  rw [hcontrols]
  simp [hmark, hnext]

/-! ## Calls -/

variable {dialect : Dialect} {state : CodeState}

/-- A number sign in front takes the whole rest of the line. -/
theorem readCode_directive (hdialect : dialect.preprocessor = true) :
    readCode dialect state true '#' = do
      skipToEnd
      return (some .preprocessor, state) := by
  simp [readCode, hdialect]

/-- A next-line control is no token of code. -/
theorem readCode_nextLine (atLineStart : Bool) :
    readCode dialect state atLineStart '\u0085' = pure (none, state) := by
  have hdigit : Char.isDigit '\u0085' = false := by decide
  have hword : isWordStart '\u0085' = false := by decide +kernel
  have hoperator : isOperatorChar '\u0085' = false := by decide
  simp [readCode, hdigit, hword, hoperator]

/-- After white space a `#` takes the rest of the line. -/
theorem reads_directive (hreading : state.reading = .base) (hdialect : dialect.preprocessor = true)
    {passed : List Char} (hpassed : passed.all isWhiteSpace = true) (after : List Char) :
    Reads (readToken dialect state) passed [] ('#' :: after) fun answer token ahead' ↦
      answer = (some .preprocessor, state) ∧ token = '#' :: after ∧ ahead' = [] := by
  apply readToken_base dialect hreading
  · nofun
  · intro _
    rw [hpassed, readCode_directive hdialect]
    exact .bind (.skipToEnd (.pure ⟨rfl, rfl, rfl⟩))

/-- The number sign is no blank, so the blanks of a line end in front of it. -/
theorem blanks_before_hash (before after : List Char) :
    (before ++ '#' :: after).takeWhile isSpace = before.takeWhile isSpace ∧
      (before ++ '#' :: after).dropWhile isSpace = before.dropWhile isSpace ++ '#' :: after := by
  induction before with
  | nil => exact ⟨rfl, rfl⟩
  | cons c before ih => by_cases hc : isSpace c = true <;> simp [hc, ih]

/-- White space before a `#` is passed without a class, and the `#` is not passed with it. -/
theorem reads_white (hreading : state.reading = .base) {before : List Char} (hbefore : before ≠ [])
    (hwhite : ∀ c ∈ before, isWhiteSpace c = true) (passed after : List Char) :
    Reads (readToken dialect state) passed [] (before ++ '#' :: after) fun answer token ahead' ↦
      answer = (none, state) ∧ ∃ more, before = token ++ more ∧ ahead' = more ++ '#' :: after := by
  obtain ⟨c, before, rfl⟩ := List.exists_cons_of_ne_nil hbefore
  rw [List.cons_append]
  apply readToken_base dialect hreading
  · intro _
    obtain ⟨htaken, hleft⟩ := blanks_before_hash (c :: before) after
    rw [List.cons_append] at htaken hleft
    rw [htaken, hleft]
    exact ⟨rfl, _, List.takeWhile_append_dropWhile.symm, rfl⟩
  · intro hspace
    -- The next-line control is the only white space that is no blank.
    have hnext : c = '\u0085' := by
      apply Decidable.byContradiction
      intro hnext
      have hmark : c ≠ '\ufeff' := by
        rintro rfl
        exact absurd hspace (by decide)
      have hwhite' := hwhite c List.mem_cons_self
      rw [← isSpace_eq_isWhiteSpace hmark hnext, hspace] at hwhite'
      cases hwhite'
    subst hnext
    rw [readCode_nextLine]
    exact .pure ⟨rfl, before, rfl, rfl⟩

/-- A directive is read only where nothing but white space has been passed. -/
theorem Lexes.all_isWhiteSpace {passed text ahead : List Char} {cls : Option TokenClass}
    {after : CodeState} (h : Lexes dialect state passed text ahead cls after)
    (hcls : cls = some .preprocessor) : passed.all isWhiteSpace = true := by
  cases h with
  | directive _ _ hpassed => exact hpassed
  | string _ _ hreads | stringRest _ _ hreads => exact absurd (hreads.cls_eq.symm.trans hcls) nofun
  | quiet _ _ _ hquiet => exact absurd (hcls ▸ hquiet) (by decide)
  | _ => cases hcls

/-! ## Lines -/

/-- Where a text of blanks stands before a `#`, the `#` begins a directive that goes to the end of
the line; where another character is among them, no directive begins there. -/
structure DirectiveAfter (blank : Char → Bool) (hidden before after : List Char)
    (tokens : List Token) : Prop where
  begins : (∀ c ∈ before, blank c = true) →
    ⟨byteLength hidden + byteLength before, byteLength hidden + byteLength (before ++ '#' :: after),
      some .preprocessor⟩ ∈ tokens
  only : (∃ c ∈ before, blank c = false) → ∀ token ∈ tokens,
    token.start = byteLength hidden + byteLength before → token.cls ≠ some .preprocessor

/-- Two notions of a blank agree on a directive if they agree on what stands before it. -/
theorem DirectiveAfter.congr {blank other : Char → Bool} {hidden before after : List Char}
    {tokens : List Token} (h : DirectiveAfter blank hidden before after tokens)
    (hother : ∀ c ∈ before, other c = blank c) :
    DirectiveAfter other hidden before after tokens where
  begins hall := h.begins fun c hc ↦ (hother c hc).symm.trans (hall c hc)
  only := by
    rintro ⟨c, hc, hnone⟩
    exact h.only ⟨c, hc, (hother c hc).symm.trans hnone⟩

/-- Among the calls in code on white space and a `#` after it, one reads the directive. -/
theorem directive_callsAlong (hdialect : dialect.preprocessor = true) {indentUnit : Nat}
    {base : Cursor} {hidden passed ahead : List Char} {value last : CodeState} {calls : List Call}
    (h : CallsAlong (ofDialect dialect indentUnit).readToken base hidden passed (.code value) ahead
      calls (.code last)) :
    ∀ before after, ahead = before ++ '#' :: after → value.reading = .base →
      (∀ c ∈ passed ++ before, isWhiteSpace c = true) →
      ⟨byteLength hidden + byteLength (passed ++ before),
        byteLength hidden + byteLength (passed ++ before ++ '#' :: after), some .preprocessor⟩ ∈
          calls.map Call.token := by
  refine callsAlong_induction ?_ ?_ h
  · intro _ _ before after hnil
    exact absurd hnil.symm (by simp)
  · intro passed text ahead cls value next last calls _ hcall ih before after hline hreading hwhite
    obtain ⟨hpassed, hbefore⟩ := List.forall_mem_append.1 hwhite
    rw [hline] at hcall
    by_cases hempty : before = []
    · subst hempty
      have hdirective := reads_directive hreading hdialect (List.all_eq_true.2 hpassed) after
      obtain ⟨hanswer, rfl, rfl⟩ := hdirective.of_run hcall
      obtain ⟨rfl, rfl⟩ := Prod.mk.inj hanswer
      rw [List.map_cons, List.append_nil, byteLength_append]
      simp [Call.token, Cursor.placed]
    · obtain ⟨hanswer, more, rfl, rfl⟩ :=
        (reads_white hreading hempty hbefore passed after).of_run hcall
      obtain ⟨rfl, rfl⟩ := Prod.mk.inj hanswer
      rw [← List.append_assoc] at hwhite
      have hmem := ih more after rfl hreading hwhite
      rw [List.append_assoc passed text more] at hmem
      exact List.mem_cons_of_mem _ hmem

/-- In a dialect with directives, a `#` in code begins a directive just where the standard's white
space stands before it on the visible part of the line, and the directive goes to the end of the
line. With the blanks of scanning this is so where neither a byte order mark nor a next-line control
stands before the `#`. -/
theorem directive_follows_white_space (config : ModeConfig)
    (hname : dialectName config ∉ ["rust", "javascript", "js"]) (indentUnit : Nat)
    {value : CodeState} (hreading : value.reading = .base) (base : Cursor)
    (hidden before after : List Char) :
    ∃ tokens last,
      readTokens (ofConfig config indentUnit).readToken
        (base.placed hidden [] [] (before ++ '#' :: after)) 0 (.code value) =
          .ok (tokens, .code last) ∧
      DirectiveAfter isWhiteSpace hidden before after tokens ∧
      ((∀ c ∈ before, c ≠ '\ufeff' ∧ c ≠ '\u0085') →
        DirectiveAfter isSpace hidden before after tokens) := by
  have hdialect : (Dialect.ofConfig config).preprocessor = true :=
    (preprocessor_ofConfig config).2 hname
  obtain ⟨calls, last, hcalls, _, htokens⟩ :=
    exists_visible_calls (.ofConfig config) indentUnit value base hidden (before ++ '#' :: after)
  have hdirective : DirectiveAfter isWhiteSpace hidden before after (calls.map Call.token) := by
    refine ⟨fun hwhite ↦ ?_, ?_⟩
    · exact directive_callsAlong hdialect hcalls before after rfl hreading hwhite
    · rintro ⟨c, hc, hother⟩ token htoken hstart hcls
      obtain ⟨call, hcall, rfl⟩ := List.mem_map.1 htoken
      obtain ⟨_, _, passed, text, ahead, hline, hlexes, hparts⟩ :=
        lexes_callsAlong hcalls call hcall
      have hpassed := hlexes.all_isWhiteSpace hcls
      have hlength : byteLength passed = byteLength before := by
        rw [hparts] at hstart
        simpa [Call.token, Cursor.placed] using hstart
      rw [List.nil_append] at hline
      obtain ⟨rfl, _⟩ := append_inj_of_byteLength hline.symm hlength
      rw [List.all_eq_true.1 hpassed c hc] at hother
      cases hother
  refine ⟨_, last, htokens, hdirective, fun hsame ↦ hdirective.congr fun c hc ↦ ?_⟩
  exact isSpace_eq_isWhiteSpace (hsame c hc).1 (hsame c hc).2

/-- A directive after two spaces. -/
theorem directive_follows_white_space_spaces :
    dialectName { name := "clike" } ∉ ["rust", "javascript", "js"] ∧
      ∃ tokens last,
        tokenizeLine (ofConfig { name := "clike" } 4) "  #x".toList
          ((ofConfig { name := "clike" } 4).start 0) 4 = .ok (tokens, last) ∧
        ⟨2, 4, some .preprocessor⟩ ∈ tokens := by
  have hname : dialectName { name := "clike" } ∉ ["rust", "javascript", "js"] := by decide
  have hreading : (⟨.base, [], 0⟩ : CodeState).reading = .base := rfl
  obtain ⟨tokens, last, htokens, _, hdirective⟩ :=
    directive_follows_white_space { name := "clike" } hname 4 hreading (.ofLine "  #x".toList 4) []
      [' ', ' '] ['x']
  have hline := Cursor.placed_ofLine "  #x".toList 4
  refine ⟨hname, tokens, .code last, ?_, (hdirective (by simp)).begins (by simp [isSpace])⟩
  rw [tokenizeLine, if_neg (by decide), ← hline]
  exact htokens

/-- A byte order mark is a blank of scanning, but no directive begins after it; a next-line control
is none, and a directive begins after it. -/
theorem directive_disagrees_with_blanks :
    (∃ tokens last,
      tokenizeLine (ofConfig { name := "clike" } 4) ['\ufeff', '#', 'x']
        ((ofConfig { name := "clike" } 4).start 0) 4 = .ok (tokens, last) ∧
      ¬ DirectiveAfter isSpace [] ['\ufeff'] ['x'] tokens) ∧
    ∃ tokens last,
      tokenizeLine (ofConfig { name := "clike" } 4) ['\u0085', '#', 'x']
        ((ofConfig { name := "clike" } 4).start 0) 4 = .ok (tokens, last) ∧
      ¬ DirectiveAfter isSpace [] ['\u0085'] ['x'] tokens := by
  have hmark : LineRun (ofConfig { name := "clike" } 4).readToken (.ofLine ['\ufeff', '#', 'x'] 4) 0
      ((ofConfig { name := "clike" } 4).start 0) _ none (.code ⟨.base, [], 0⟩) :=
    .advance (by decide) rfl (by decide) (.advance (by decide) rfl (by decide)
      (.advance (by decide) rfl (by decide) (.done (by decide))))
  have hnext : LineRun (ofConfig { name := "clike" } 4).readToken (.ofLine ['\u0085', '#', 'x'] 4) 0
      ((ofConfig { name := "clike" } 4).start 0) _ none (.code ⟨.base, [], 0⟩) :=
    .advance (by decide) rfl (by decide) (.advance (by decide) rfl (by decide) (.done (by decide)))
  refine ⟨⟨_, _, hmark.tokenizeLine_eq (by decide), fun hblanks ↦ ?_⟩,
    ⟨_, _, hnext.tokenizeLine_eq (by decide), fun hblanks ↦ ?_⟩⟩
  · have hmem := hblanks.begins (by simp [isSpace])
    revert hmem
    decide
  · have hno := hblanks.only ⟨'\u0085', by decide, by decide⟩ ⟨2, 4, some .preprocessor⟩ (by decide)
    exact hno rfl rfl

end LineLexer.CFamily
