import LineLexer.Mode.Sample
import LineLexer.Proofs.Highlight.Calls
import LineLexer.Proofs.Scan.Placed

/-!
# The tokens of a line cover it

For a token operation that does nothing but move the cursor between the boundaries of its line,
forwards or backwards, the loop ends, and its tokens lie side by side from the start of the line to
its end.
-/

namespace LineLexer

open Outcome Scan

/-- Tokens side by side from an offset to the end of a line, each of at least one character. -/
def Tiles (line : Line) : Nat → List Token → Prop
  | offset, [] => offset = byteLength line
  | offset, token :: tokens =>
    token.start = offset ∧ token.start < token.stop ∧ IsBoundary line token.start ∧
      IsBoundary line token.stop ∧ Tiles line token.stop tokens

/-- The texts of tokens side by side are the text they cover. -/
theorem Tiles.exists_texts {before rest : List Char} {tokens : List Token}
    (h : Tiles (before ++ rest) (byteLength before) tokens) :
    ∃ texts, tokens.mapM (fun token ↦ slice? (before ++ rest) token.start token.stop) =
      some texts ∧ texts.flatten = rest := by
  induction tokens generalizing before rest with
  | nil =>
    have hrest : byteLength rest = 0 := by
      have hend : byteLength before = byteLength (before ++ rest) := h
      rw [byteLength_append] at hend
      omega
    exact ⟨[], rfl, by simp [byteLength_eq_zero_iff.1 hrest]⟩
  | cons token tokens ih =>
    obtain ⟨hstart, hlt, hfirst, hlast, htiles⟩ := h
    obtain ⟨before', middle, after, hline, hbefore, hmiddle⟩ :=
      hfirst.exists_middle hlast (Nat.le_of_lt hlt)
    obtain ⟨rfl, rfl⟩ := append_inj_of_byteLength hline (hstart.symm.trans hbefore.symm)
    have hrest : Tiles ((before ++ middle) ++ after) (byteLength (before ++ middle)) tokens := by
      rw [byteLength_append, hmiddle, List.append_assoc]
      exact htiles
    obtain ⟨texts, htexts, hflatten⟩ := ih hrest
    rw [List.append_assoc] at htexts
    refine ⟨middle :: texts, ?_, by simp [hflatten]⟩
    rw [List.mapM_cons, htexts, hstart, ← hmiddle, slice?_append]
    rfl

/-! ## Operations that only move the cursor -/

/-- The operation moves the cursor to some boundary of the line, and changes nothing of it but its
position and the column it remembers. -/
def OnlyMoves (op : TokenOp) : Prop :=
  ∀ (state : State) (cursor : Cursor), IsBoundary cursor.line cursor.pos →
    cursor.pos < byteLength cursor.line → cursor.start = cursor.pos → cursor.lineStart = 0 →
      ∃ cls after reached, op state cursor = .ok ((cls, after), reached) ∧
        reached.line = cursor.line ∧ reached.tabSize = cursor.tabSize ∧
        reached.start = cursor.start ∧ reached.lineStart = cursor.lineStart ∧
        IsBoundary cursor.line reached.pos

/-- An operation that takes a character, stays or steps back only moves the cursor. -/
theorem OnlyMoves.of_steps {op : TokenOp}
    (hop : ∀ state, ∃ answer, op state = (Scan.next >>= fun _ ↦ pure answer) ∨
      op state = pure answer ∨ op state = (Scan.backUp 1 >>= fun _ ↦ pure answer)) :
    OnlyMoves op := by
  intro state cursor hpos hend hstart hvisible
  obtain ⟨passed, rest, hcursor⟩ := Cursor.exists_placed hpos hstart hvisible
  rw [hcursor]
  obtain ⟨⟨cls, after⟩, hnext | hstay | hback⟩ := hop state
  · cases rest with
    | nil =>
      refine ⟨cls, after, cursor.placed [] passed [] [], ?_, rfl, rfl, rfl, rfl, ?_⟩
      · rw [hnext, bind_apply, Scan.next, eat_placed_nil, ok_bind, pure_apply]
      · exact Cursor.isBoundary_placed cursor [] passed [] []
    | cons c rest =>
      refine ⟨cls, after, cursor.placed [] passed [c] rest, ?_, rfl, rfl, rfl, rfl, ?_⟩
      · rw [hnext, bind_apply, Scan.next, eat_placed_cons, if_pos rfl, ok_bind, pure_apply,
          List.nil_append]
      · rw [← List.singleton_append, ← Cursor.line_placed_append]
        exact Cursor.isBoundary_placed cursor [] passed [c] rest
  · refine ⟨cls, after, cursor.placed [] passed [] rest, ?_, rfl, rfl, rfl, rfl, ?_⟩
    · rw [hstay, pure_apply]
    · exact Cursor.isBoundary_placed cursor [] passed [] rest
  · refine ⟨cls, after, { cursor.placed [] passed [] rest with
      pos := byteLength (passed.take (passed.length - 1)) }, ?_, rfl, rfl, rfl, rfl, ?_⟩
    · rw [hback, bind_apply, backUp_passed, ok_bind, pure_apply]
    · have hpassed : passed.take (passed.length - 1) ++
          (passed.drop (passed.length - 1) ++ rest) = passed ++ rest := by
        rw [← List.append_assoc, List.take_append_drop]
      have hboundary := isBoundary_append (passed.take (passed.length - 1))
        (passed.drop (passed.length - 1) ++ rest)
      rw [hpassed] at hboundary
      simpa [Cursor.placed] using hboundary

theorem Sample.onlyMoves_stall (period : Int) (retreat : Bool) :
    OnlyMoves (Sample.stall period retreat).readToken := by
  apply OnlyMoves.of_steps
  intro state
  have hstep (calls : Int) (counted : State) : ∃ answer : Option TokenClass × State,
      let step : Scan (Option TokenClass × State) := do
        if calls % max period 1 = 0 then
          let _ ← Scan.next
          return (some .keyword, counted)
        else
          if retreat then Scan.backUp 1
          return (some .error, counted)
      step = (Scan.next >>= fun _ ↦ pure answer) ∨ step = pure answer ∨
        step = (Scan.backUp 1 >>= fun _ ↦ pure answer) := by
    by_cases hcalls : calls % max period 1 = 0
    · exact ⟨_, .inl (if_pos hcalls)⟩
    · cases retreat with
      | false => exact ⟨_, .inr (.inl (if_neg hcalls))⟩
      | true => exact ⟨_, .inr (.inr (if_neg hcalls))⟩
  exact hstep _ _

/-- A cursor on a boundary of its line, nothing of which is hidden. -/
structure Cursor.Sound (cursor : Cursor) : Prop where
  boundary : IsBoundary cursor.line cursor.pos
  visible : cursor.lineStart = 0

theorem Cursor.sound_ofLine (line : Line) (tabSize : Nat) : (Cursor.ofLine line tabSize).Sound where
  boundary := isBoundary_zero line
  visible := rfl

variable {op : TokenOp} {cursor : Cursor} {stalled : Nat} {state last : State} {calls : List Call}
  {rest : Option Token}

/-- A call leads from boundary to boundary on its line, whichever way it moves. -/
theorem OnlyMoves.call (hop : OnlyMoves op) (hsound : cursor.Sound)
    (hend : cursor.pos < byteLength cursor.line) (state : State) :
    ∃ cls after reached, op state cursor.beginToken = .ok ((cls, after), reached) ∧
      reached.line = cursor.line ∧ reached.lineStart = 0 ∧ IsBoundary cursor.line reached.pos := by
  obtain ⟨cls, after, reached, hcall, hline, _, _, hvisible, hboundary⟩ :=
    hop state cursor.beginToken hsound.boundary hend rfl hsound.visible
  exact ⟨cls, after, reached, hcall, hline, hvisible.trans hsound.visible, hboundary⟩

/-- The loop ends without a fault. -/
theorem OnlyMoves.exists_readTokens (hop : OnlyMoves op) (hsound : cursor.Sound) (stalled : Nat)
    (state : State) : ∃ tokens last, readTokens op cursor stalled state = .ok (tokens, last) := by
  fun_induction readTokens op cursor stalled state with
  | case1 => exact ⟨_, _, rfl⟩
  | case2 cursor stalled state hend fault hcall =>
    obtain ⟨cls, after, reached, hok, _⟩ := hop.call hsound (Nat.not_le.1 hend) state
    cases hcall.symm.trans hok
  | case3 => exact ⟨_, _, rfl⟩
  | case4 cursor stalled state hend cls after reached hcall hmove hlimit ih =>
    obtain ⟨_, _, _, hok, _, hvisible, _⟩ := hop.call hsound (Nat.not_le.1 hend) state
    cases hcall.symm.trans hok
    exact ih ⟨hsound.boundary, hvisible⟩
  | case5 cursor stalled state hend cls after reached hcall hmove fault hread ih =>
    obtain ⟨_, _, _, hok, _, hvisible, hboundary⟩ := hop.call hsound (Nat.not_le.1 hend) state
    cases hcall.symm.trans hok
    obtain ⟨tokens, last, hrest⟩ := ih ⟨hboundary, hvisible⟩
    cases hread.symm.trans hrest
  | case6 => exact ⟨_, _, rfl⟩

/-- The tokens of a run cover the line from the cursor on. -/
theorem LineRun.tiles (h : LineRun op cursor stalled state calls rest last) (hop : OnlyMoves op)
    (hsound : cursor.Sound) : Tiles cursor.line cursor.pos (tokensOf calls rest) := by
  induction h with
  | done hend => exact Nat.le_antisymm hsound.boundary.le_byteLength hend
  | @giveUp cursor _ _ _ _ _ hend hcall hmove hlimit =>
    rw [tokensOf_cons_stall hmove]
    exact ⟨rfl, hend, hsound.boundary, isBoundary_byteLength cursor.line, rfl⟩
  | @stall _ _ _ state _ _ _ _ _ hend hcall hmove hlimit hrun ih =>
    obtain ⟨_, _, _, hok, _, hvisible, _⟩ := hop.call hsound hend state
    cases hcall.symm.trans hok
    rw [tokensOf_cons_stall hmove]
    exact ih ⟨hsound.boundary, hvisible⟩
  | @advance _ _ _ state _ _ _ _ _ hend hcall hmove hrun ih =>
    obtain ⟨_, _, _, hok, _, hvisible, hboundary⟩ := hop.call hsound hend state
    cases hcall.symm.trans hok
    rw [tokensOf_cons_advance hmove]
    exact ⟨rfl, hmove, hsound.boundary, hboundary, ih ⟨hboundary, hvisible⟩⟩

/-- The rest that a run gives up on has no class and ends with the line. -/
theorem LineRun.remainder_eq {token : Token} (h : LineRun op cursor stalled state calls rest last)
    (hrest : rest = some token) :
    token.stop = byteLength cursor.line ∧ token.cls = none := by
  induction h with
  | done => cases hrest
  | giveUp =>
    cases hrest
    exact ⟨rfl, rfl⟩
  | stall _ _ _ _ _ ih => exact ih hrest
  | advance _ _ _ _ ih => exact ih hrest

/-- The loop ends on every line that is not empty. Its tokens cover the line without a gap, and are
what its calls moved over, but for the last one where it gave up. -/
theorem tokenizeLine_covers (mode : Mode) (hmode : OnlyMoves mode.readToken) (state : State)
    (tabSize : Nat) (line : Line) (hline : line ≠ []) :
    ∃ tokens last texts calls rest,
      tokenizeLine mode line state tabSize = .ok (tokens, last) ∧
      tokens ≠ [] ∧ Tiles line 0 tokens ∧
      tokens.mapM (fun token ↦ slice? line token.start token.stop) = some texts ∧
      texts.flatten = line ∧
      LineRun mode.readToken (.ofLine line tabSize) 0 state calls rest last ∧
      tokens = tokensOf calls rest ∧
      (∀ token, rest = some token → token.stop = byteLength line ∧ token.cls = none ∧
        ∃ before stalls, calls = before ++ stalls ∧ LineRun.Stalls stalls ∧
          stalls.length = maxStalledCalls) ∧
      (rest = none → ∀ before stalls after, calls = before ++ (stalls ++ after) →
        LineRun.Stalls stalls → stalls.length < maxStalledCalls) := by
  have hsound := Cursor.sound_ofLine line tabSize
  obtain ⟨tokens, last, hread⟩ := hmode.exists_readTokens hsound 0 state
  obtain ⟨calls, rest, hrun, rfl⟩ := exists_lineRun hread
  have htiles : Tiles line 0 (tokensOf calls rest) := hrun.tiles hmode hsound
  have htokens : tokensOf calls rest ≠ [] := by
    intro hnil
    rw [hnil] at htiles
    exact hline (byteLength_eq_zero_iff.1 (Eq.symm htiles))
  obtain ⟨texts, htexts, hflatten⟩ :=
    Tiles.exists_texts (show Tiles ([] ++ line) (byteLength []) _ from htiles)
  refine ⟨_, last, texts, calls, rest, ?_, htokens, htiles, htexts, hflatten, hrun, rfl, ?_, ?_⟩
  · rw [tokenizeLine, if_neg (by simpa using hline)]
    exact hread
  · intro token hrest
    obtain ⟨hstop, hcls⟩ := hrun.remainder_eq hrest
    obtain ⟨before, stalls, hcalls, hstalls, hlength⟩ := hrun.stalls_of_giveUp hrest (by decide)
    exact ⟨hstop, hcls, before, stalls, hcalls, hstalls, by omega⟩
  · intro hrest before stalls after hcalls hstalls
    exact (hrun.stalls_lt_of_done hrest (by decide) hcalls hstalls).1

/-- Two of three calls step back, and the tokens still cover the line. -/
theorem tokenizeLine_covers_retreating :
    OnlyMoves (Sample.stall 3 true).readToken ∧ ['n', 'é'] ≠ [] ∧
      ∃ tokens last, tokenizeLine (Sample.stall 3 true) ['n', 'é']
          ((Sample.stall 3 true).start 0) 4 = .ok (tokens, last) ∧
        tokens ≠ [] ∧ Tiles ['n', 'é'] 0 tokens := by
  have hmode := Sample.onlyMoves_stall 3 true
  obtain ⟨tokens, last, _, _, _, hok, hne, htiles, _⟩ :=
    tokenizeLine_covers (Sample.stall 3 true) hmode ((Sample.stall 3 true).start 0) 4 ['n', 'é']
      (by decide)
  exact ⟨hmode, by decide, tokens, last, hok, hne, htiles⟩
end LineLexer
