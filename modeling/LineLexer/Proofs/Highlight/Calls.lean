import LineLexer.Highlight.Tokens
import LineLexer.Proofs.Outcome

/-!
# The calls behind the tokens of a line

The loop over a line, with every call of the token operation on record. A run lists its calls and
ends at the end of the line or by giving up on the rest of it. The tokens of a line are those of
the calls that moved forward, and the rest where the run gave up; it gives up exactly when as many
calls in a row as the limit allows did not move forward.
-/

namespace LineLexer

open Outcome

/-- One call of a token operation: the cursor and the state it was given, and what it answered. -/
structure Call where
  cursor : Cursor
  state : State
  cls : Option TokenClass
  after : State
  reached : Cursor

namespace Call

def Advances (call : Call) : Prop := call.cursor.pos < call.reached.pos

instance (call : Call) : Decidable call.Advances := inferInstanceAs (Decidable (_ < _))

/-- What the call moved over, with the class it reported. -/
def token (call : Call) : Token := ⟨call.cursor.pos, call.reached.pos, call.cls⟩

end Call

/-- The rest of a line that no call was able to read. -/
def Cursor.remainder (cursor : Cursor) : Token := ⟨cursor.pos, byteLength cursor.line, none⟩

/-- The tokens of a run: those of its calls, and the rest of the line if it gave up. -/
def tokensOf (calls : List Call) (rest : Option Token) : List Token :=
  (calls.filter fun call ↦ call.Advances).map Call.token ++ rest.toList

/-- A run of the loop from a cursor, after `stalled` calls without progress: its calls, the rest of
the line if it gives up, and the state it ends in. -/
inductive LineRun (op : TokenOp) :
    Cursor → Nat → State → List Call → Option Token → State → Prop where
  | done {cursor : Cursor} {stalled : Nat} {state : State}
      (hend : byteLength cursor.line ≤ cursor.pos) :
      LineRun op cursor stalled state [] none state
  | giveUp {cursor reached : Cursor} {stalled : Nat} {state after : State}
      {cls : Option TokenClass} (hend : cursor.pos < byteLength cursor.line)
      (hcall : op state cursor.beginToken = .ok ((cls, after), reached))
      (hmove : reached.pos ≤ cursor.pos) (hlimit : maxStalledCalls ≤ stalled + 1) :
      LineRun op cursor stalled state [⟨cursor.beginToken, state, cls, after, reached⟩]
        (some cursor.remainder) after
  | stall {cursor reached : Cursor} {stalled : Nat} {state after last : State}
      {cls : Option TokenClass} {calls : List Call} {rest : Option Token}
      (hend : cursor.pos < byteLength cursor.line)
      (hcall : op state cursor.beginToken = .ok ((cls, after), reached))
      (hmove : reached.pos ≤ cursor.pos) (hlimit : stalled + 1 < maxStalledCalls)
      (hrun : LineRun op { reached with line := cursor.line, pos := cursor.pos } (stalled + 1) after
        calls rest last) :
      LineRun op cursor stalled state
        (⟨cursor.beginToken, state, cls, after, reached⟩ :: calls) rest last
  | advance {cursor reached : Cursor} {stalled : Nat} {state after last : State}
      {cls : Option TokenClass} {calls : List Call} {rest : Option Token}
      (hend : cursor.pos < byteLength cursor.line)
      (hcall : op state cursor.beginToken = .ok ((cls, after), reached))
      (hmove : cursor.pos < reached.pos)
      (hrun : LineRun op { reached with line := cursor.line } 0 after calls rest last) :
      LineRun op cursor stalled state
        (⟨cursor.beginToken, state, cls, after, reached⟩ :: calls) rest last

namespace LineRun

variable {op : TokenOp} {cursor : Cursor} {stalled : Nat} {state last : State} {calls : List Call}
  {rest : Option Token}

/-- A call that stays in its place gives no token. -/
theorem tokensOf_cons_stall {call : Call} (hmove : call.reached.pos ≤ call.cursor.pos) :
    tokensOf (call :: calls) rest = tokensOf calls rest := by
  have hstall : ¬ call.Advances := Nat.not_lt.2 hmove
  simp [tokensOf, hstall]

theorem tokensOf_cons_advance {call : Call} (hmove : call.cursor.pos < call.reached.pos) :
    tokensOf (call :: calls) rest = call.token :: tokensOf calls rest := by
  have hadvances : call.Advances := hmove
  simp [tokensOf, hadvances]

/-- A run makes the loop end with its tokens. -/
theorem readTokens_eq (h : LineRun op cursor stalled state calls rest last) :
    readTokens op cursor stalled state = .ok (tokensOf calls rest, last) := by
  induction h with
  | done hend =>
    rw [readTokens, dif_pos hend]
    rfl
  | giveUp hend hcall hmove hlimit =>
    rw [readTokens, dif_neg (Nat.not_le.2 hend), hcall]
    simp only [dif_pos hmove, dif_pos hlimit]
    rw [tokensOf_cons_stall hmove]
    rfl
  | stall hend hcall hmove hlimit hrun ih =>
    rw [readTokens, dif_neg (Nat.not_le.2 hend), hcall]
    simp only [dif_pos hmove, dif_neg (Nat.not_le.2 hlimit)]
    rw [ih, tokensOf_cons_stall hmove]
  | advance hend hcall hmove hrun ih =>
    rw [readTokens, dif_neg (Nat.not_le.2 hend), hcall]
    simp only [dif_neg (Nat.not_le.2 hmove), ih]
    rw [tokensOf_cons_advance hmove]
    rfl

/-- The run of a line tells its tokens and the state behind it. -/
theorem tokenizeLine_eq {mode : Mode} {line : Line} {tabSize : Nat}
    (h : LineRun mode.readToken (.ofLine line tabSize) 0 state calls rest last)
    (hline : line ≠ []) :
    tokenizeLine mode line state tabSize = .ok (tokensOf calls rest, last) := by
  rw [tokenizeLine, if_neg (by simpa using hline), h.readTokens_eq]

/-- Where there is text, a run to the end of the line begins with a call from its state. -/
theorem exists_first (h : LineRun op cursor stalled state calls none last)
    (hend : cursor.pos < byteLength cursor.line) :
    ∃ call others, calls = call :: others ∧ call.cursor = cursor.beginToken ∧
      call.state = state := by
  cases h with
  | done hdone => exact absurd hdone (Nat.not_le.2 hend)
  | stall => exact ⟨_, _, rfl, rfl, rfl⟩
  | advance => exact ⟨_, _, rfl, rfl, rfl⟩

/-! ## Giving up -/

def Stalls (calls : List Call) : Prop := ∀ call ∈ calls, ¬ call.Advances

theorem Stalls.cons {call : Call} (hcalls : Stalls calls)
    (hmove : call.reached.pos ≤ call.cursor.pos) : Stalls (call :: calls) := by
  intro other hmem
  rcases List.mem_cons.1 hmem with rfl | hin
  · exact Nat.not_lt.2 hmove
  · exact hcalls other hin

/-- A run that gives up ends in as many stalled calls as the limit allows, counted with those before
it where all of its own are among them. -/
theorem stalls_of_giveUp {token : Token} (h : LineRun op cursor stalled state calls rest last)
    (hrest : rest = some token) (hstalled : stalled < maxStalledCalls) :
    ∃ before stalls, calls = before ++ stalls ∧ Stalls stalls ∧
      (stalls.length = maxStalledCalls ∨
        before = [] ∧ stalled + stalls.length = maxStalledCalls) := by
  induction h with
  | done => cases hrest
  | giveUp hend hcall hmove hlimit =>
    refine ⟨[], _, rfl, Stalls.cons (fun _ hmem ↦ by cases hmem) hmove, .inr ⟨rfl, ?_⟩⟩
    simp only [List.length_singleton]
    omega
  | stall hend hcall hmove hlimit hrun ih =>
    obtain ⟨before, stalls, rfl, hstalls, hlength | ⟨rfl, hlength⟩⟩ := ih hrest hlimit
    · exact ⟨_ :: before, stalls, rfl, hstalls, .inl hlength⟩
    · refine ⟨[], _ :: stalls, rfl, hstalls.cons hmove, .inr ⟨rfl, ?_⟩⟩
      simp only [List.length_cons]
      omega
  | advance hend hcall hmove hrun ih =>
    obtain ⟨before, stalls, rfl, hstalls, hlength⟩ := ih hrest (by decide)
    exact ⟨_ :: before, stalls, rfl, hstalls, .inl (by omega)⟩

/-- In a run that reaches the end of its line, fewer calls in a row than the limit stall. -/
theorem stalls_lt_of_done (h : LineRun op cursor stalled state calls rest last)
    (hrest : rest = none) (hstalled : stalled < maxStalledCalls) {before stalls later : List Call}
    (hcalls : calls = before ++ (stalls ++ later)) (hstalls : Stalls stalls) :
    stalls.length < maxStalledCalls ∧
      (before = [] → stalled + stalls.length < maxStalledCalls) := by
  induction h generalizing before stalls with
  | done =>
    obtain ⟨rfl, hrest⟩ := List.append_eq_nil_iff.1 hcalls.symm
    obtain ⟨rfl, rfl⟩ := List.append_eq_nil_iff.1 hrest
    exact ⟨by decide, fun _ ↦ hstalled⟩
  | giveUp => cases hrest
  | stall hend hcall hmove hlimit hrun ih =>
    cases before with
    | cons call before =>
      obtain ⟨_, hcalls⟩ := List.cons.inj hcalls
      exact ⟨(ih hrest hlimit hcalls hstalls).1, nofun⟩
    | nil =>
      cases stalls with
      | nil => exact ⟨by decide, fun _ ↦ hstalled⟩
      | cons call stalls =>
        obtain ⟨_, hcalls⟩ := List.cons.inj hcalls
        have hlength := (ih hrest hlimit (show _ = [] ++ (stalls ++ later) from hcalls)
          (fun other hmem ↦ hstalls other (List.mem_cons_of_mem _ hmem))).2 rfl
        simp only [List.length_cons]
        omega
  | advance hend hcall hmove hrun ih =>
    cases before with
    | cons call before =>
      obtain ⟨_, hcalls⟩ := List.cons.inj hcalls
      exact ⟨(ih hrest (by decide) hcalls hstalls).1, nofun⟩
    | nil =>
      cases stalls with
      | nil => exact ⟨by decide, fun _ ↦ hstalled⟩
      | cons call stalls =>
        obtain ⟨rfl, _⟩ := List.cons.inj hcalls
        exact absurd hmove (hstalls _ List.mem_cons_self)

end LineRun

/-- A loop that ends has made a run. -/
theorem exists_lineRun {op : TokenOp} {cursor : Cursor} {stalled : Nat} {state last : State}
    {tokens : List Token} (h : readTokens op cursor stalled state = .ok (tokens, last)) :
    ∃ calls rest, LineRun op cursor stalled state calls rest last ∧
      tokens = tokensOf calls rest := by
  fun_induction readTokens op cursor stalled state generalizing tokens last with
  | case1 cursor stalled state hend =>
    obtain ⟨rfl, rfl⟩ := Prod.mk.inj (Except.ok.inj h)
    exact ⟨[], none, .done hend, rfl⟩
  | case2 => cases h
  | case3 cursor stalled state hend cls after reached hcall hmove hlimit =>
    obtain ⟨rfl, rfl⟩ := Prod.mk.inj (Except.ok.inj h)
    refine ⟨_, _, .giveUp (Nat.not_le.1 hend) hcall hmove hlimit, ?_⟩
    rw [LineRun.tokensOf_cons_stall hmove]
    rfl
  | case4 cursor stalled state hend cls after reached hcall hmove hlimit ih =>
    obtain ⟨calls, rest, hrun, rfl⟩ := ih h
    refine ⟨_, rest, .stall (Nat.not_le.1 hend) hcall hmove (Nat.not_le.1 hlimit) hrun, ?_⟩
    rw [LineRun.tokensOf_cons_stall hmove]
  | case5 => cases h
  | case6 cursor stalled state hend cls after reached hcall hmove tokens' last' hread ih =>
    obtain ⟨rfl, rfl⟩ := Prod.mk.inj (Except.ok.inj h)
    obtain ⟨calls, rest, hrun, rfl⟩ := ih hread
    refine ⟨_, rest, .advance (Nat.not_le.1 hend) hcall (Nat.not_le.1 hmove) hrun, ?_⟩
    rw [LineRun.tokensOf_cons_advance (Nat.not_le.1 hmove)]
    rfl

end LineLexer
