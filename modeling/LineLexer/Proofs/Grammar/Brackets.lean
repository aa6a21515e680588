import LineLexer.Proofs.Grammar.CFamily
import LineLexer.Proofs.Registry.Progress

/-!
# Open brackets of code

Of all tokens of code only brackets change which brackets are open, so the brackets open after a run
are told by the word that the bracket tokens of its lines spell, whatever stands between them.
Brackets that balance leave no trace, and the indentation of a line that begins with a closer is
that of the line with the opener.
-/

namespace LineLexer.CFamily

open Scan

/-! ## Words of brackets -/

/-- The openers, each with its closer. -/
def bracketPairs : List (Char × Char) := [('(', ')'), ('[', ']'), ('\x7b', '\x7d')]

/-- The grammar knows these pairs. -/
theorem closerOf?_eq_some_iff {opener closer : Char} :
    closerOf? opener = some closer ↔ (opener, closer) ∈ bracketPairs := by
  unfold closerOf? bracketPairs
  split <;> simp_all [eq_comm]

/-- What a bracket makes of the closers that are waited for, innermost first. An opener adds its
closer, a closer that is waited for next is taken off, and any other closer changes nothing. -/
inductive BracketStep : List Char → Char → List Char → Prop where
  | opens {waiting : List Char} {opener closer : Char} (hpair : (opener, closer) ∈ bracketPairs) :
      BracketStep waiting opener (closer :: waiting)
  | closes {waiting : List Char} {opener closer : Char} (hpair : (opener, closer) ∈ bracketPairs) :
      BracketStep (closer :: waiting) closer waiting
  | stray {waiting : List Char} {opener closer : Char} (hpair : (opener, closer) ∈ bracketPairs)
      (hother : waiting.head? ≠ some closer) : BracketStep waiting closer waiting

/-- Brackets of which each opener has its closer. -/
inductive Balanced : List Char → Prop where
  | nil : Balanced []
  | wrap {opener closer : Char} {inside after : List Char}
      (hpair : (opener, closer) ∈ bracketPairs) (hinside : Balanced inside)
      (hafter : Balanced after) :
      Balanced (opener :: (inside ++ closer :: after))

theorem stepContexts_opener {opener closer : Char} (h : closerOf? opener = some closer)
    (contexts : List Char) : stepContexts contexts opener = closer :: contexts := by
  unfold stepContexts
  rw [h]

theorem closerOf?_closer {opener closer : Char} (h : closerOf? opener = some closer) :
    closerOf? closer = none := by
  unfold closerOf? at h
  split at h <;> cases h <;> rfl

theorem stepContexts_closer {opener closer : Char} (h : closerOf? opener = some closer)
    (contexts : List Char) : stepContexts (closer :: contexts) closer = contexts := by
  unfold stepContexts
  rw [closerOf?_closer h]
  exact if_pos rfl

/-- A closing bracket that the innermost context does not wait for changes nothing. -/
theorem stepContexts_stray {opener closer : Char} (h : closerOf? opener = some closer)
    {contexts : List Char} (hother : contexts.head? ≠ some closer) :
    stepContexts contexts closer = contexts := by
  unfold stepContexts
  rw [closerOf?_closer h]
  cases contexts with
  | nil => rfl
  | cons expected outer => exact if_neg fun heq ↦ hother (congrArg some heq.symm)

/-- A bracket is an opener or a closer. -/
theorem exists_pair_of_mem_brackets {c : Char} (h : c ∈ brackets) :
    (∃ closer, (c, closer) ∈ bracketPairs) ∨ ∃ opener, (opener, c) ∈ bracketPairs := by
  simp only [brackets, List.mem_cons, List.not_mem_nil, or_false] at h
  rcases h with rfl | rfl | rfl | rfl | rfl | rfl
  all_goals simp [bracketPairs]

/-- The grammar takes exactly this step for each bracket. -/
theorem stepContexts_eq_iff {c : Char} (hc : c ∈ brackets) {waiting after : List Char} :
    stepContexts waiting c = after ↔ BracketStep waiting c after := by
  constructor
  · rintro rfl
    rcases exists_pair_of_mem_brackets hc with ⟨closer, hpair⟩ | ⟨opener, hpair⟩
    · rw [stepContexts_opener (closerOf?_eq_some_iff.2 hpair)]
      exact .opens hpair
    · have hcloser := closerOf?_eq_some_iff.2 hpair
      by_cases hhead : waiting.head? = some c
      · obtain ⟨outer, rfl⟩ := List.head?_eq_some_iff.1 hhead
        rw [stepContexts_closer hcloser]
        exact .closes hpair
      · rw [stepContexts_stray hcloser hhead]
        exact .stray hpair hhead
  · intro hstep
    cases hstep with
    | opens hpair => exact stepContexts_opener (closerOf?_eq_some_iff.2 hpair) waiting
    | closes hpair => exact stepContexts_closer (closerOf?_eq_some_iff.2 hpair) after
    | stray hpair hother => exact stepContexts_stray (closerOf?_eq_some_iff.2 hpair) hother

/-- Balanced brackets leave the open brackets as they are. -/
theorem Balanced.foldl_stepContexts {word : List Char} (h : Balanced word) (contexts : List Char) :
    word.foldl stepContexts contexts = contexts := by
  induction h generalizing contexts with
  | nil => rfl
  | wrap hpair _ _ ihInside ihAfter =>
    have hcloser := closerOf?_eq_some_iff.2 hpair
    rw [List.foldl_cons, stepContexts_opener hcloser, List.foldl_append, ihInside, List.foldl_cons,
      stepContexts_closer hcloser, ihAfter]

/-! ## Calls -/

/-- The word that the bracket tokens of a line spell. -/
def bracketsIn (line : Line) (tokens : List Token) : List Char :=
  (tokens.filter fun token ↦ token.cls == some .bracket).flatMap fun token ↦
    (slice? line token.start token.stop).getD []

/-- What a call on a line does to the open brackets: a bracket token is one bracket, which opens or
closes, and any other token leaves them. -/
structure TracksBrackets (line : Line) (call : Call) (before after : CodeState) : Prop where
  state_eq : call.state = .code before
  after_eq : call.after = .code after
  baseIndent : after.baseIndent = before.baseIndent
  bracket : call.cls = some .bracket → ∃ c ∈ brackets,
    slice? line call.token.start call.token.stop = some [c] ∧
      BracketStep before.contexts c after.contexts
  other : call.cls ≠ some .bracket → after.contexts = before.contexts

/-- The contexts after a call are folded from the brackets among its tokens. -/
theorem TracksBrackets.contexts_eq {line : Line} {call : Call} {before after : CodeState}
    (h : TracksBrackets line call before after) :
    after.contexts = (bracketsIn line [call.token]).foldl stepContexts before.contexts := by
  by_cases hcls : call.cls = some .bracket
  · obtain ⟨c, hc, hslice, hstep⟩ := h.bracket hcls
    have hword : bracketsIn line [call.token] = [c] := by
      have htoken : call.token.cls = some .bracket := hcls
      simp [bracketsIn, htoken, hslice]
    rw [hword, ← (stepContexts_eq_iff hc).2 hstep]
    rfl
  · have hword : bracketsIn line [call.token] = [] := by
      have htoken : call.token.cls ≠ some .bracket := hcls
      simp [bracketsIn, htoken]
    rw [hword, h.other hcls]
    rfl

variable (dialect : Dialect) (indentUnit : Nat)

/-- What a step of code tells of brackets. -/
theorem Step.tracksBrackets {text ahead : List Char} {before after : CodeState}
    {cls : Option TokenClass} (h : Step before text ahead cls after) (base : Cursor)
    (passed : List Char) :
    TracksBrackets (passed ++ (text ++ ahead))
      ⟨base.placed [] passed [] (text ++ ahead), .code before, cls, .code after,
        base.placed [] passed text ahead⟩ before after := by
  cases h with
  | @bracket c _ _ hc =>
    have hstep := (stepContexts_eq_iff hc).1 (rfl : stepContexts before.contexts c = _)
    exact ⟨rfl, rfl, rfl, fun _ ↦ ⟨c, hc, slice?_placed base passed [c] ahead, hstep⟩, nofun⟩
  | operator => exact ⟨rfl, rfl, rfl, nofun, fun _ ↦ rfl⟩
  | other hbracket => exact ⟨rfl, rfl, rfl, fun hcls ↦ absurd hcls hbracket, fun _ ↦ rfl⟩

theorem bracketsIn_append (line : Line) (tokens others : List Token) :
    bracketsIn line (tokens ++ others) = bracketsIn line tokens ++ bracketsIn line others := by
  simp [bracketsIn]

/-- The calls on a line, one after the other. -/
theorem contexts_callsAlong {base : Cursor} {passed ahead : List Char} {before after : CodeState}
    {calls : List Call}
    (h : CallsAlong (ofDialect dialect indentUnit).readToken base [] passed (.code before) ahead
      calls (.code after)) :
    after.baseIndent = before.baseIndent ∧
      after.contexts =
        (bracketsIn (passed ++ ahead) (calls.map Call.token)).foldl stepContexts
          before.contexts := by
  refine callsAlong_induction ?_ ?_ h
  · exact fun _ _ ↦ ⟨rfl, rfl⟩
  · intro passed text ahead cls before next after calls htext hcall ⟨hbase, hcontexts⟩
    have hlexes := (lexes_readToken dialect before passed (by simp [htext])).of_run hcall
    have htracks := hlexes.step.tracksBrackets base passed
    rw [List.append_assoc] at hcontexts
    refine ⟨hbase.trans htracks.baseIndent, ?_⟩
    rw [hcontexts, htracks.contexts_eq, ← List.foldl_append, ← bracketsIn_append]
    rfl

theorem tracksBrackets_callsAlong {base : Cursor} {line : Line} {before after : CodeState}
    {calls : List Call}
    (h : CallsAlong (ofDialect dialect indentUnit).readToken base [] [] (.code before) line calls
      (.code after)) :
    ∀ call ∈ calls, ∃ value next, TracksBrackets line call value next := by
  intro call hcall
  obtain ⟨value, next, passed, text, ahead, hline, hlexes, hparts⟩ := lexes_callsAlong h call hcall
  rw [List.nil_append] at hline
  rw [hline, hparts]
  exact ⟨value, next, hlexes.step.tracksBrackets base passed⟩

/-! ## Lines -/

/-- The word that the bracket tokens of a run spell, line by line. -/
def bracketWord (lines : List Line) (runs : List (List Token × State)) : List Char :=
  (lines.zip runs).flatMap fun (line, tokens, _) ↦ bracketsIn line tokens

/-- Over any lines the contexts are those of all bracket tokens so far, and the base indent stays.
-/
theorem exists_runs_of_lines (before : CodeState) (lines : List Line) (tabSize : Nat) :
    ∃ runs after,
      tokenizeLines (ofDialect dialect indentUnit) tabSize (.code before) lines = .ok runs ∧
      stateAfter (.code before) runs = .code after ∧
      after.baseIndent = before.baseIndent ∧
      after.contexts = (bracketWord lines runs).foldl stepContexts before.contexts := by
  apply lines_induction dialect indentUnit before (motive := fun before lines runs after ↦
    after.baseIndent = before.baseIndent ∧
      after.contexts = (bracketWord lines runs).foldl stepContexts before.contexts)
  · exact fun _ ↦ ⟨rfl, rfl⟩
  · exact fun hlines ↦ hlines
  · intro before middle after line calls lines runs _ hcalls ⟨hbase, hcontexts⟩
    obtain ⟨hbase', hcontexts'⟩ := contexts_callsAlong dialect indentUnit hcalls
    have hword : bracketWord (line :: lines) ((calls.map Call.token, .code middle) :: runs) =
        bracketsIn line (calls.map Call.token) ++ bracketWord lines runs := rfl
    rw [List.nil_append] at hcontexts'
    refine ⟨hbase.trans hbase', ?_⟩
    rw [hword, List.foldl_append, ← hcontexts', hcontexts]

/-! ## Indentation -/

/-- The text begins with the closer of the innermost open bracket. -/
def BeginsWithCloser (contexts : List Char) (text : Line) : Prop :=
  ∃ closer, text.head? = some closer ∧ contexts.head? = some closer

/-- One level for every open bracket, and one less where the innermost is closed first. -/
theorem suggestIndent_base (dialect : Dialect) (indentUnit : Nat) {state : CodeState}
    (hreading : state.reading = .base) (text : Line) :
    (BeginsWithCloser state.contexts text →
      (ofDialect dialect indentUnit).suggestIndent (.code state) text =
        some (state.baseIndent + (state.contexts.length - 1) * indentUnit)) ∧
    (¬ BeginsWithCloser state.contexts text →
      (ofDialect dialect indentUnit).suggestIndent (.code state) text =
        some (state.baseIndent + state.contexts.length * indentUnit)) := by
  have hindent : (ofDialect dialect indentUnit).suggestIndent (.code state) text =
      suggestIndent indentUnit state text := rfl
  obtain ⟨reading, contexts, baseIndent⟩ := state
  obtain rfl : reading = .base := hreading
  rw [hindent]
  cases text with
  | nil => exact ⟨by rintro ⟨_, ⟨⟩, _⟩, fun _ ↦ rfl⟩
  | cons first text =>
    cases contexts with
    | nil => exact ⟨by rintro ⟨_, _, ⟨⟩⟩, fun _ ↦ rfl⟩
    | cons closer outer =>
      have hbegins : BeginsWithCloser (closer :: outer) (first :: text) ↔ first = closer := by
        simp [BeginsWithCloser, eq_comm]
      rw [hbegins]
      constructor
      · rintro rfl
        simp [suggestIndent]
      · intro hne
        simp [suggestIndent, hne]

/-- The brackets open after a run are those that its bracket tokens leave open, one after the other;
no other token has a part in it, and the base indentation never changes. Balanced brackets leave the
open brackets as they are. In code the indentation counts the open brackets, and a line that begins
with the closer of the innermost one is indented as far as the brackets reach that were open before
its opener. -/
theorem contexts_are_unmatched_brackets (dialect : Dialect) (indentUnit tabSize : Nat)
    {state : State} (hstate : Reachable (ofDialect dialect indentUnit) state) :
    ∃ value : CodeState, state = .code value ∧
      (∀ line : Line, line ≠ [] → ∃ calls last,
        LineRun (ofDialect dialect indentUnit).readToken (.ofLine line tabSize) 0 state calls none
          last ∧
        tokenizeLine (ofDialect dialect indentUnit) line state tabSize =
          .ok (calls.map Call.token, last) ∧
        ∀ call ∈ calls, ∃ before after, TracksBrackets line call before after) ∧
      ∀ lines : List Line, ∃ runs last,
        tokenizeLines (ofDialect dialect indentUnit) tabSize state lines = .ok runs ∧
        stateAfter state runs = .code last ∧
        last.baseIndent = value.baseIndent ∧
        last.contexts = (bracketWord lines runs).foldl stepContexts value.contexts ∧
        (Balanced (bracketWord lines runs) → last.contexts = value.contexts) ∧
        (last.reading = .base →
          (∀ text,
            (BeginsWithCloser last.contexts text →
              (ofDialect dialect indentUnit).suggestIndent (.code last) text =
                some (value.baseIndent + (last.contexts.length - 1) * indentUnit)) ∧
            (¬ BeginsWithCloser last.contexts text →
              (ofDialect dialect indentUnit).suggestIndent (.code last) text =
                some (value.baseIndent + last.contexts.length * indentUnit))) ∧
          ∀ earlier opener closer inside text,
            bracketWord lines runs = earlier ++ opener :: inside →
            (opener, closer) ∈ bracketPairs → Balanced inside →
            (ofDialect dialect indentUnit).suggestIndent (.code last) (closer :: text) =
              some (value.baseIndent +
                (earlier.foldl stepContexts value.contexts).length * indentUnit)) := by
  obtain ⟨value, rfl⟩ := (steady_ofDialect dialect indentUnit).fits hstate
  refine ⟨value, rfl, fun line hline ↦ ?_, fun lines ↦ ?_⟩
  · obtain ⟨calls, after, hcalls, hrun, htokens⟩ :=
      exists_calls dialect indentUnit value hline tabSize
    exact ⟨calls, .code after, hrun, htokens, tracksBrackets_callsAlong dialect indentUnit hcalls⟩
  obtain ⟨runs, last, hruns, hlast, hbase, hcontexts⟩ :=
    exists_runs_of_lines dialect indentUnit value lines tabSize
  refine ⟨runs, last, hruns, hlast, hbase, hcontexts, fun hbalanced ↦ ?_, fun hreading ↦ ⟨?_, ?_⟩⟩
  · rw [hcontexts, hbalanced.foldl_stepContexts]
  · rw [← hbase]
    exact suggestIndent_base dialect indentUnit hreading
  · intro earlier opener closer inside text hword hpair hinside
    have hcloser := closerOf?_eq_some_iff.2 hpair
    have hopen : last.contexts = closer :: earlier.foldl stepContexts value.contexts := by
      rw [hcontexts, hword, List.foldl_append, List.foldl_cons, stepContexts_opener hcloser,
        hinside.foldl_stepContexts]
    have hbegins : BeginsWithCloser last.contexts (closer :: text) :=
      ⟨closer, rfl, by rw [hopen]; rfl⟩
    rw [(suggestIndent_base dialect indentUnit hreading _).1 hbegins, hbase, hopen]
    rfl

/-- An opening brace, and a parenthesis that stands in a string. Only the brace indents what comes
next, and its closer goes back to the line it opened on. -/
theorem contexts_are_unmatched_brackets_string :
    Reachable (ofDialect .c 4) ((ofDialect .c 4).start 2) ∧
      ∃ runs last,
        tokenizeLines (ofDialect .c 4) 4 ((ofDialect .c 4).start 2) ["\x7b\")\"".toList] =
          .ok runs ∧
        stateAfter ((ofDialect .c 4).start 2) runs = .code last ∧
        bracketWord ["\x7b\")\"".toList] runs = ['\x7b'] ∧
        (ofDialect .c 4).suggestIndent (.code last) ['x'] = some 6 ∧
        (ofDialect .c 4).suggestIndent (.code last) ['\x7d'] = some 2 := by
  have hstate : Reachable (ofDialect .c 4) ((ofDialect .c 4).start 2) := .start 2
  obtain ⟨value, hvalue, _, hlines⟩ := contexts_are_unmatched_brackets .c 4 4 hstate
  obtain rfl : ⟨.base, [], 2⟩ = value := State.code.inj hvalue
  obtain ⟨runs, last, hruns, hlast, _, _, _, hindent⟩ := hlines ["\x7b\")\"".toList]
  -- The brace, and the string with the parenthesis.
  have hrun : LineRun (ofDialect .c 4).readToken (.ofLine "\x7b\")\"".toList 4) 0
      ((ofDialect .c 4).start 2) _ none (.code ⟨.base, ['\x7d'], 2⟩) :=
    .advance (by decide) rfl (by decide) (.advance (by decide) rfl (by decide) (.done (by decide)))
  have hknown : tokenizeLines (ofDialect .c 4) 4 ((ofDialect .c 4).start 2)
      ["\x7b\")\"".toList] = .ok _ :=
    tokenizeLines_cons (hrun.tokenizeLine_eq (by decide)) rfl
  obtain rfl := Except.ok.inj (hruns.symm.trans hknown)
  obtain rfl : ⟨.base, ['\x7d'], 2⟩ = last := State.code.inj hlast
  obtain ⟨hlevels, hcloses⟩ := hindent rfl
  have hcontent : ¬ BeginsWithCloser ['\x7d'] ['x'] := by
    rintro ⟨closer, ⟨⟩, ⟨⟩⟩
  exact ⟨hstate, _, _, hruns, hlast, by decide, (hlevels ['x']).2 hcontent,
    hcloses [] '\x7b' '\x7d' [] [] (by decide) (by decide) .nil⟩

end LineLexer.CFamily
