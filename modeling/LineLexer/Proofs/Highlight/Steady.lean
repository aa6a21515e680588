import LineLexer.Proofs.Highlight.Calls
import LineLexer.Proofs.Scan.Forward

/-!
# Modes that always move forward

A text that is read piece by piece, each call taking the next piece. What a call does may depend on
the visible text before the piece but not on a hidden part, so a text is read at the end of a longer
line as it is alone. A steady mode reads every text in this way, from every state that fits it.
-/

namespace LineLexer

open Scan

/-- The text of a token, with its class. -/
structure Piece where
  text : List Char
  cls : Option TokenClass

/-- The tokens of pieces side by side from an offset on. -/
def tokensFrom : Nat → List Piece → List Token
  | _, [] => []
  | offset, piece :: pieces =>
    ⟨offset, offset + byteLength piece.text, piece.cls⟩ ::
      tokensFrom (offset + byteLength piece.text) pieces

theorem length_tokensFrom (offset : Nat) (pieces : List Piece) :
    (tokensFrom offset pieces).length = pieces.length := by
  induction pieces generalizing offset with
  | nil => rfl
  | cons piece pieces ih => rw [tokensFrom, List.length_cons, ih, List.length_cons]

def Token.shift (offset : Nat) (token : Token) : Token :=
  { token with start := offset + token.start, stop := offset + token.stop }

/-- The same pieces further on give the same tokens, shifted. -/
theorem tokensFrom_add (offset start : Nat) (pieces : List Piece) :
    tokensFrom (offset + start) pieces = (tokensFrom start pieces).map (Token.shift offset) := by
  induction pieces generalizing start with
  | nil => rfl
  | cons piece pieces ih =>
    simp only [tokensFrom, List.map_cons, Token.shift]
    rw [Nat.add_assoc, ih]

/-- The operation reads a text after the text passed: each call takes one of the pieces, from the
state that the call before it left. -/
inductive ReadsAs (op : TokenOp) : List Char → State → List Char → List Piece → State → Prop where
  | nil {passed : List Char} {state : State} : ReadsAs op passed state [] [] state
  | cons {passed text ahead : List Char} {state after last : State} {cls : Option TokenClass}
      {pieces : List Piece} (htext : text ≠ [])
      (hcall : ∀ base hidden, op state (Cursor.placed base hidden passed [] (text ++ ahead)) =
        .ok ((cls, after), Cursor.placed base hidden passed text ahead))
      (hrest : ReadsAs op (passed ++ text) after ahead pieces last) :
      ReadsAs op passed state (text ++ ahead) (⟨text, cls⟩ :: pieces) last

/-- The calls on a text after the text passed: each takes the next part of the text, from the state
that the call before it left. The cursor has the fields of `base` and the hidden part. -/
inductive CallsAlong (op : TokenOp) (base : Cursor) (hidden : List Char) :
    List Char → State → List Char → List Call → State → Prop where
  | nil {passed : List Char} {state : State} : CallsAlong op base hidden passed state [] [] state
  | cons {passed text ahead : List Char} {state after last : State} {cls : Option TokenClass}
      {calls : List Call} (htext : text ≠ [])
      (hcall : op state (base.placed hidden passed [] (text ++ ahead)) =
        .ok ((cls, after), base.placed hidden passed text ahead))
      (hrest : CallsAlong op base hidden (passed ++ text) after ahead calls last) :
      CallsAlong op base hidden passed state (text ++ ahead)
        (⟨base.placed hidden passed [] (text ++ ahead), state, cls, after,
          base.placed hidden passed text ahead⟩ :: calls) last

namespace CallsAlong

variable {op : TokenOp} {base : Cursor} {hidden passed ahead : List Char} {state last : State}
  {calls : List Call}

/-- The loop over a line makes these calls. -/
theorem lineRun (h : CallsAlong op base hidden passed state ahead calls last) {cursor : Cursor}
    (hcursor : cursor.beginToken = base.placed hidden passed [] ahead) (stalled : Nat) :
    LineRun op cursor stalled state calls none last := by
  induction h generalizing cursor stalled with
  | @nil passed state =>
    have hend : byteLength cursor.line ≤ cursor.pos := by
      change byteLength cursor.beginToken.line ≤ cursor.beginToken.pos
      rw [hcursor]
      exact Nat.le_of_eq (Cursor.pos_placed_nil base hidden passed []).symm
    exact .done hend
  | @cons passed text ahead state after last cls calls htext hcall _ ih =>
    have hline : cursor.line = (base.placed hidden passed text ahead).line :=
      calc
        cursor.line = (base.placed hidden passed [] (text ++ ahead)).line := by
          rw [← hcursor]
          rfl
        _ = (base.placed hidden passed text ahead).line :=
          (Cursor.line_placed_append base hidden passed [] text ahead).symm
    have hreached : (base.placed hidden passed text ahead).pos = cursor.pos + byteLength text :=
      calc
        (base.placed hidden passed text ahead).pos =
            (base.placed hidden passed [] (text ++ ahead)).pos + byteLength text :=
          Cursor.pos_placed_append base hidden passed [] text ahead
        _ = cursor.pos + byteLength text := by
          rw [← hcursor]
          rfl
    have hmove : cursor.pos < (base.placed hidden passed text ahead).pos := by
      have hlength := byteLength_pos_iff.2 htext
      omega
    have hend : cursor.pos < byteLength cursor.line := by
      rw [hline]
      apply Nat.lt_of_lt_of_le hmove
      exact (Cursor.isBoundary_placed base hidden passed text ahead).le_byteLength
    have hnext : Cursor.beginToken
        { base.placed hidden passed text ahead with line := cursor.line } =
          base.placed hidden (passed ++ text) [] ahead := by
      rw [hline]
      exact Cursor.beginToken_placed base hidden passed text ahead
    rw [← hcursor] at hcall ⊢
    exact .advance hend hcall hmove (ih hnext 0)

/-- Every call moves forward to a boundary of the line. -/
theorem advances (h : CallsAlong op base hidden passed state ahead calls last) :
    ∀ call ∈ calls, call.Advances ∧ IsBoundary (hidden ++ (passed ++ ahead)) call.reached.pos := by
  induction h with
  | nil => simp
  | @cons passed text ahead state after last cls calls htext hcall _ ih =>
    rw [List.append_assoc] at ih
    have hmove : (base.placed hidden passed [] (text ++ ahead)).pos <
        (base.placed hidden passed text ahead).pos := by
      have hlength := byteLength_pos_iff.2 htext
      simp only [Cursor.placed, byteLength_nil]
      omega
    have hboundary : IsBoundary (hidden ++ (passed ++ (text ++ ahead)))
        (base.placed hidden passed text ahead).pos :=
      Cursor.isBoundary_placed base hidden passed text ahead
    intro call hmem
    rcases List.mem_cons.1 hmem with rfl | hin
    · exact ⟨hmove, hboundary⟩
    · exact ih call hin

/-- Every call gives a token. -/
theorem tokensOf_eq (h : CallsAlong op base hidden passed state ahead calls last) :
    tokensOf calls none = calls.map Call.token := by
  have hall : calls.filter (fun call ↦ call.Advances) = calls :=
    List.filter_eq_self.2 fun call hmem ↦ decide_eq_true (h.advances call hmem).1
  rw [tokensOf, hall, Option.toList_none, List.append_nil]

/-- The calls on a whole line give its tokens. -/
theorem tokenizeLine_eq {mode : Mode} {line : Line} {tabSize : Nat}
    (h : CallsAlong mode.readToken (.ofLine line tabSize) [] [] state line calls last)
    (hline : line ≠ []) :
    tokenizeLine mode line state tabSize = .ok (calls.map Call.token, last) := by
  rw [(h.lineRun (Cursor.beginToken_ofLine line tabSize) 0).tokenizeLine_eq hline, h.tokensOf_eq]

/-- There is a call where there is text. -/
theorem exists_first (h : CallsAlong op base hidden passed state ahead calls last)
    (hahead : ahead ≠ []) : ∃ call others, calls = call :: others := by
  cases h with
  | nil => exact absurd rfl hahead
  | cons => exact ⟨_, _, rfl⟩

/-- The calls from one of them on, where `Fits` is kept from state to state. -/
theorem exists_from {Fits : State → Prop}
    (hkept : ∀ {state after : State} {passed ahead token rest : List Char}
      {cls : Option TokenClass}, Fits state → ahead ≠ [] →
      op state (base.placed hidden passed [] ahead) =
        .ok ((cls, after), base.placed hidden passed token rest) → Fits after)
    {before : List Call} (h : CallsAlong op base hidden passed state ahead (before ++ calls) last)
    (hstate : Fits state) :
    ∃ passed' state' ahead', passed' ++ ahead' = passed ++ ahead ∧ Fits state' ∧
      CallsAlong op base hidden passed' state' ahead' calls last := by
  induction before generalizing passed state ahead with
  | nil => exact ⟨passed, state, ahead, rfl, hstate, h⟩
  | cons call before ih =>
    cases h with
    | @cons _ text ahead _ after _ cls _ htext hcall hrest =>
      have hafter := hkept hstate (by simp [htext]) hcall
      obtain ⟨passed', state', ahead', hline, hstate', hcalls⟩ := ih hrest hafter
      exact ⟨passed', state', ahead', by rw [hline, List.append_assoc], hstate', hcalls⟩

end CallsAlong

namespace ReadsAs

variable {op : TokenOp} {passed rest : List Char} {state last : State} {pieces : List Piece}

/-- One call reads each piece. -/
theorem exists_callsAlong (h : ReadsAs op passed state rest pieces last) (base : Cursor)
    (hidden : List Char) :
    ∃ calls, CallsAlong op base hidden passed state rest calls last ∧
      calls.map Call.token = tokensFrom (byteLength hidden + byteLength passed) pieces := by
  induction h with
  | nil => exact ⟨[], .nil, rfl⟩
  | @cons passed text ahead state after last cls pieces htext hcall _ ih =>
    obtain ⟨calls, hcalls, htokens⟩ := ih
    refine ⟨_, .cons htext (hcall base hidden) hcalls, ?_⟩
    rw [List.map_cons, htokens]
    simp [Call.token, Cursor.placed, tokensFrom, Nat.add_assoc]

/-- Nothing is read of an empty text. -/
theorem eq_nil (h : ReadsAs op passed state rest pieces last) (hrest : rest = []) :
    pieces = [] ∧ last = state := by
  cases h with
  | nil => exact ⟨rfl, rfl⟩
  | cons htext => exact absurd (List.append_eq_nil_iff.1 hrest).1 htext

/-- A whole line is read to its end, by one call for each token. -/
theorem exists_calls {line : Line} (h : ReadsAs op [] state line pieces last) (tabSize : Nat) :
    ∃ calls, LineRun op (.ofLine line tabSize) 0 state calls none last ∧
      calls.map Call.token = tokensFrom 0 pieces ∧
      ∀ call ∈ calls, call.Advances ∧ IsBoundary line call.reached.pos := by
  obtain ⟨calls, hcalls, htokens⟩ := h.exists_callsAlong (.ofLine line tabSize) []
  exact ⟨calls, hcalls.lineRun (Cursor.beginToken_ofLine line tabSize) 0, htokens, hcalls.advances⟩

theorem tokenizeLine_eq {mode : Mode} {line : Line}
    (h : ReadsAs mode.readToken [] state line pieces last) (hline : line ≠ []) (tabSize : Nat) :
    tokenizeLine mode line state tabSize = .ok (tokensFrom 0 pieces, last) := by
  obtain ⟨calls, hcalls, htokens⟩ := h.exists_callsAlong (.ofLine line tabSize) []
  rw [hcalls.tokenizeLine_eq hline, htokens]
  rfl

end ReadsAs

/-- The operation reads a part of a text: whatever it makes of what lies ahead comes after the
pieces of the part. -/
def ReadsPart (op : TokenOp) (passed : List Char) (state : State) (text ahead : List Char)
    (pieces : List Piece) (after : State) : Prop :=
  ∀ more last, ReadsAs op (passed ++ text) after ahead more last →
    ReadsAs op passed state (text ++ ahead) (pieces ++ more) last

namespace ReadsPart

variable {op : TokenOp} {passed text text' ahead : List Char} {state middle after : State}
  {pieces pieces' : List Piece}

theorem call {cls : Option TokenClass} (htext : text ≠ [])
    (hcall : ∀ base hidden, op state (Cursor.placed base hidden passed [] (text ++ ahead)) =
      .ok ((cls, after), Cursor.placed base hidden passed text ahead)) :
    ReadsPart op passed state text ahead [⟨text, cls⟩] after :=
  fun _ _ hahead ↦ .cons htext hcall hahead

theorem append (h : ReadsPart op passed state text (text' ++ ahead) pieces middle)
    (h' : ReadsPart op (passed ++ text) middle text' ahead pieces' after) :
    ReadsPart op passed state (text ++ text') ahead (pieces ++ pieces') after := by
  intro more last hahead
  rw [← List.append_assoc] at hahead
  rw [List.append_assoc, List.append_assoc]
  exact h _ last (h' more last hahead)

theorem readsAs (h : ReadsPart op passed state text [] pieces after) :
    ReadsAs op passed state text pieces after := by
  have hall := h [] after .nil
  rwa [List.append_nil, List.append_nil] at hall

end ReadsPart

/-! ## Lines -/

theorem tokenizeLines_cons {mode : Mode} {tabSize : Nat} {state after : State} {line : Line}
    {lines : List Line} {tokens : List Token} {runs : List (List Token × State)}
    (hline : tokenizeLine mode line state tabSize = .ok (tokens, after))
    (hlines : tokenizeLines mode tabSize after lines = .ok runs) :
    tokenizeLines mode tabSize state (line :: lines) = .ok ((tokens, after) :: runs) := by
  rw [tokenizeLines, hline, Outcome.ok_bind]
  dsimp only
  rw [hlines, Outcome.ok_bind]
  rfl

/-- The state after the lines of a run. -/
def stateAfter : State → List (List Token × State) → State
  | state, [] => state
  | _, (_, after) :: runs => stateAfter after runs

/-! ## Steady modes -/

/-- From states that fit, the mode reads every text without stalling and comes to states that fit;
to copy such a state or to pass an empty line changes nothing. -/
structure Mode.Steady (mode : Mode) (Fits : State → Prop) : Prop where
  start : ∀ baseIndent, Fits (mode.start baseIndent)
  copy : ∀ state, Fits state → mode.copy state = state
  skipBlankLine : ∀ state, Fits state → mode.skipBlankLine state = state
  readToken : ∀ state, Fits state → Takes (mode.readToken state) fun answer ↦ Fits answer.2

namespace Mode.Steady

variable {mode : Mode} {Fits : State → Prop}

/-- A steady mode reads every text to its end, piece by piece. -/
theorem exists_readsAs (h : mode.Steady Fits) {state : State} (hstate : Fits state)
    (passed text : List Char) :
    ∃ pieces last, ReadsAs mode.readToken passed state text pieces last ∧ Fits last := by
  induction hlength : text.length using Nat.strongRecOn generalizing text passed state with
  | ind length ih =>
    by_cases htext : text = []
    · subst htext
      exact ⟨[], state, .nil, hstate⟩
    · obtain ⟨⟨cls, after⟩, token, ahead, hline, ⟨htoken, hafter⟩, hcall⟩ :=
        h.readToken state hstate passed text htext
      rw [List.nil_append] at hline
      subst hline
      have hshorter : ahead.length < length := by
        have hpos := List.length_pos_iff.2 htoken
        rw [← hlength, List.length_append]
        omega
      obtain ⟨pieces, last, hrest, hlast⟩ :=
        ih ahead.length hshorter hafter (passed ++ token) ahead rfl
      exact ⟨_, last, .cons htoken hcall hrest, hlast⟩

/-- A call of a steady mode leaves the states that fit. -/
theorem fits_of_call (h : mode.Steady Fits) {state after : State} (hstate : Fits state)
    {base : Cursor} {hidden passed ahead token rest : List Char} {cls : Option TokenClass}
    (hahead : ahead ≠ [])
    (hcall : mode.readToken state (base.placed hidden passed [] ahead) =
      .ok ((cls, after), base.placed hidden passed token rest)) : Fits after :=
  ((h.readToken state hstate passed ahead hahead).of_run hcall).2

/-- The calls that the loop makes on the visible part of a line. -/
theorem exists_visible_calls (h : mode.Steady Fits) {state : State} (hstate : Fits state)
    (base : Cursor) (hidden line : List Char) :
    ∃ calls last, CallsAlong mode.readToken base hidden [] state line calls last ∧
      LineRun mode.readToken (base.placed hidden [] [] line) 0 state calls none last ∧
      readTokens mode.readToken (base.placed hidden [] [] line) 0 state =
        .ok (calls.map Call.token, last) := by
  obtain ⟨pieces, last, hreads, _⟩ := h.exists_readsAs hstate [] line
  obtain ⟨calls, hcalls, _⟩ := hreads.exists_callsAlong base hidden
  have hrun : LineRun mode.readToken (base.placed hidden [] [] line) 0 state calls none last :=
    hcalls.lineRun (Cursor.beginToken_placed base hidden [] [] line) 0
  refine ⟨calls, last, hcalls, hrun, ?_⟩
  rw [hrun.readTokens_eq, hcalls.tokensOf_eq]

/-- The calls that the loop makes on a line. -/
theorem exists_calls (h : mode.Steady Fits) {state : State} (hstate : Fits state) {line : Line}
    (hline : line ≠ []) (tabSize : Nat) :
    ∃ calls last, CallsAlong mode.readToken (.ofLine line tabSize) [] [] state line calls last ∧
      LineRun mode.readToken (.ofLine line tabSize) 0 state calls none last ∧
      tokenizeLine mode line state tabSize = .ok (calls.map Call.token, last) := by
  obtain ⟨calls, last, hcalls, hrun, _⟩ :=
    h.exists_visible_calls hstate (.ofLine line tabSize) [] line
  rw [Cursor.placed_ofLine] at hrun
  exact ⟨calls, last, hcalls, hrun, hcalls.tokenizeLine_eq hline⟩

/-- Every line leads from a state that fits to another, and every call on the way moves forward. -/
theorem exists_tokens (h : mode.Steady Fits) {state : State} (hstate : Fits state) (line : Line)
    (tabSize : Nat) :
    ∃ tokens last, tokenizeLine mode line state tabSize = .ok (tokens, last) ∧ Fits last := by
  by_cases hline : line = []
  · subst hline
    refine ⟨[], mode.skipBlankLine state, rfl, ?_⟩
    rw [h.skipBlankLine state hstate]
    exact hstate
  · obtain ⟨pieces, last, hreads, hlast⟩ := h.exists_readsAs hstate [] line
    exact ⟨_, last, hreads.tokenizeLine_eq hline tabSize, hlast⟩

end Mode.Steady

end LineLexer
