import LineLexer.Proofs.Grammar.CFamily

/-!
# Comments of the C family

A block comment may be split into lines anywhere in its body: its opening, the lines of the body and
its end are read as one comment token a line, whatever brackets, quotes or openings of comments the
body holds. Only what is being read changes on the way, so the comment leaves the state it began in.
-/

namespace LineLexer.CFamily

open Scan

def commentStart : List Char := ['/', '*']

def commentEnd : List Char := ['*', '/']

/-! ## One line of a comment -/

/-- The action takes all that lies ahead and answers with a comment. -/
abbrev TakesComment (action : Scan (Option TokenClass × CodeState)) (passed token ahead : List Char)
    (after : CodeState) : Prop :=
  Reads action passed token ahead fun answer token' ahead' ↦
    answer = (some .comment, after) ∧ token' = token ++ ahead ∧ ahead' = []

variable {dialect : Dialect} {state after : CodeState} {passed token ahead body : List Char}

/-- Without an end the comment takes the line and goes on. -/
theorem readBlockComment_open (hahead : ¬ commentEnd <:+: ahead) :
    TakesComment (readBlockComment state) passed token ahead
      { state with reading := .blockComment } := by
  refine .bind (.skipToText_missing (offsetOf?_eq_none hahead) ?_)
  exact .bind (.skipToEnd (.pure ⟨rfl, rfl, rfl⟩))

/-- A body that holds no end of a comment is read up to the end behind it. -/
theorem readBlockComment_closed
    (hbody : offsetOf? commentEnd (body ++ commentEnd) = some (byteLength body)) :
    TakesComment (readBlockComment state) passed token (body ++ commentEnd)
      { state with reading := .base } := by
  rw [← List.append_nil commentEnd] at hbody ⊢
  refine .bind (.skipToText_found hbody ?_)
  exact .bind (.advance rfl (.pure ⟨rfl, by simp [commentEnd], rfl⟩))

/-- Where a comment is open the line goes on with it. -/
theorem readToken_commentRest (hreading : state.reading = .blockComment)
    (h : TakesComment (readBlockComment state) passed [] ahead after) :
    TakesComment (readToken dialect state) passed [] ahead after := by
  unfold readToken
  rw [hreading]
  exact h

/-- In code the opening begins the comment, whatever comes right behind it. -/
theorem readToken_commentStart (hreading : state.reading = .base)
    (h : TakesComment (readBlockComment state) passed commentStart ahead after) :
    TakesComment (readToken dialect state) passed [] (commentStart ++ ahead) after := by
  have hcode (atLineStart : Bool) : readCode dialect state atLineStart '/' = (do
      if ← eatChar '*' then
        readBlockComment state
      else if ← eatChar '/' then
        skipToEnd
        return (some .comment, state)
      else
        let _ ← eatWhile isOperatorChar
        return (some .operator, state)) := by
    have hword : isWordStart '/' = false := by decide +kernel
    simp [readCode, hword, Char.isDigit]
  apply readToken_base dialect hreading
  · nofun
  · intro _
    rw [hcode]
    exact .bind (.eatChar_self h)

/-- The tokens of a line of a comment: one over the whole line, and none for an empty line. -/
def commentTokens (line : Line) : List Token :=
  if line = [] then [] else [⟨0, byteLength line, some .comment⟩]

/-- A line that is one comment has no other token. -/
theorem tokenizeLine_comment (indentUnit tabSize : Nat) {line : Line} (hline : line ≠ [])
    (h : TakesComment (readToken dialect state) [] [] line after) :
    tokenizeLine (ofDialect dialect indentUnit) line (.code state) tabSize =
      .ok (commentTokens line, .code after) := by
  obtain ⟨answer, token, ahead, _, ⟨rfl, htoken, rfl⟩, hrun⟩ := h
  rw [List.nil_append] at htoken
  rw [htoken] at hrun
  have hcall (base : Cursor) (hidden : List Char) :
      (ofDialect dialect indentUnit).readToken (.code state)
          (base.placed hidden [] [] (line ++ [])) =
        .ok ((some .comment, .code after), base.placed hidden [] line []) := by
    change (readToken dialect state >>= _) _ = _
    rw [List.append_nil, bind_apply, hrun base hidden]
    rfl
  have hreads := ReadsAs.cons hline hcall .nil
  rw [List.append_nil] at hreads
  rw [hreads.tokenizeLine_eq hline tabSize, commentTokens, if_neg hline]
  simp [tokensFrom]

/-! ## All lines of a comment -/

/-- The lines of a comment: its opening stands before the first line of its body, its end behind the
last. -/
def commentLines (earlier : List Line) (last : Line) : List Line :=
  (earlier ++ [last ++ commentEnd]).modifyHead (commentStart ++ ·)

/-- From a line of a comment on that goes on, empty lines among the rest. -/
theorem tokenizeLines_commentRest (dialect : Dialect) (indentUnit tabSize : Nat)
    (value : CodeState) {earlier : List Line} {last : Line}
    (hearlier : ∀ line ∈ earlier, ¬ commentEnd <:+: line)
    (hlast : offsetOf? commentEnd (last ++ commentEnd) = some (byteLength last)) :
    tokenizeLines (ofDialect dialect indentUnit) tabSize
        (.code { value with reading := .blockComment }) (earlier ++ [last ++ commentEnd]) =
      .ok (earlier.map (fun line ↦
          (commentTokens line, .code { value with reading := .blockComment })) ++
        [(commentTokens (last ++ commentEnd), .code { value with reading := .base })]) := by
  induction earlier with
  | nil =>
    have hread : TakesComment (readToken dialect { value with reading := .blockComment }) [] []
        (last ++ commentEnd) { value with reading := .base } :=
      readToken_commentRest rfl (readBlockComment_closed hlast)
    exact tokenizeLines_cons
      (tokenizeLine_comment indentUnit tabSize (by simp [commentEnd]) hread) rfl
  | cons line earlier ih =>
    obtain ⟨hline, hearlier⟩ := List.forall_mem_cons.1 hearlier
    refine tokenizeLines_cons ?_ (ih hearlier)
    by_cases hempty : line = []
    · subst hempty
      rfl
    · exact tokenizeLine_comment indentUnit tabSize hempty
        (readToken_commentRest rfl (readBlockComment_open hline))

/-- A block comment in code is read as one comment token on each of its lines that is not empty,
over the whole line, wherever its body is split into lines. On all lines but the last the comment is
left open, and no indentation is suggested there; after the last line the state is the one that the
comment began in. -/
theorem comment_covers_its_lines (dialect : Dialect) (indentUnit tabSize : Nat) {value : CodeState}
    (hreading : value.reading = .base) {earlier : List Line} {last : Line}
    (hearlier : ∀ line ∈ earlier, ¬ commentEnd <:+: line)
    (hlast : offsetOf? commentEnd (last ++ commentEnd) = some (byteLength last)) :
    (∃ runs,
      tokenizeLines (ofDialect dialect indentUnit) tabSize (.code value)
        (commentLines earlier last) = .ok runs ∧
      runs.map Prod.fst = (commentLines earlier last).map commentTokens ∧
      runs.map Prod.snd =
        earlier.map (fun _ ↦ .code { value with reading := .blockComment }) ++ [.code value]) ∧
    ∀ text, (ofDialect dialect indentUnit).suggestIndent
      (.code { value with reading := .blockComment }) text = none := by
  refine ⟨?_, fun _ ↦ rfl⟩
  have hsame : { value with reading := .base } = value := by rw [← hreading]
  cases earlier with
  | nil =>
    have hread : TakesComment (readToken dialect value) [] []
        (commentStart ++ (last ++ commentEnd)) { value with reading := .base } :=
      readToken_commentStart hreading (readBlockComment_closed hlast)
    rw [hsame] at hread
    exact ⟨_, tokenizeLines_cons
      (tokenizeLine_comment indentUnit tabSize (by simp [commentStart]) hread) rfl, rfl, rfl⟩
  | cons first earlier =>
    obtain ⟨hfirst, hearlier⟩ := List.forall_mem_cons.1 hearlier
    have hread : TakesComment (readToken dialect value) [] [] (commentStart ++ first)
        { value with reading := .blockComment } :=
      readToken_commentStart hreading (readBlockComment_open hfirst)
    have hrest := tokenizeLines_commentRest dialect indentUnit tabSize value hearlier hlast
    rw [hsame] at hrest
    refine ⟨_, tokenizeLines_cons
      (tokenizeLine_comment indentUnit tabSize (by simp [commentStart]) hread) hrest, ?_, ?_⟩
    · simp [commentLines, Function.comp_def]
    · simp [Function.comp_def]

/-- A slash right behind the opening, a quote, a directive and another opening in the body, an empty
line, and a star right before the end. -/
theorem comment_covers_its_lines_marks :
    (⟨.base, [')'], 2⟩ : CodeState).reading = .base ∧
      (∀ line ∈ ["/(\"#/*".toList, []], ¬ commentEnd <:+: line) ∧
      offsetOf? commentEnd (")*".toList ++ commentEnd) = some (byteLength ")*".toList) ∧
      ∃ runs,
        tokenizeLines (ofDialect .c 4) 4 (.code ⟨.base, [')'], 2⟩)
          ["/*/(\"#/*".toList, [], ")**/".toList] = .ok runs ∧
        runs.map Prod.fst = [[⟨0, 8, some .comment⟩], [], [⟨0, 4, some .comment⟩]] ∧
        runs.map Prod.snd = [.code ⟨.blockComment, [')'], 2⟩, .code ⟨.blockComment, [')'], 2⟩,
          .code ⟨.base, [')'], 2⟩] := by
  have hreading : (⟨.base, [')'], 2⟩ : CodeState).reading = .base := rfl
  have hearlier : ∀ line ∈ ["/(\"#/*".toList, []], ¬ commentEnd <:+: line := by decide
  have hlast :
      offsetOf? commentEnd (")*".toList ++ commentEnd) = some (byteLength ")*".toList) := by
    decide
  obtain ⟨⟨runs, hruns, htokens, hstates⟩, _⟩ :=
    comment_covers_its_lines .c 4 4 hreading hearlier hlast
  exact ⟨hreading, hearlier, hlast, runs, hruns, htokens, hstates⟩

end LineLexer.CFamily
