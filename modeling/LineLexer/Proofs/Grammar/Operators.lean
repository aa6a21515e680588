import LineLexer.Proofs.Grammar.Brackets

/-!
# Operators and the openings of comments

An operator takes every operator character that follows, and the characters that open a comment are
among them. So a comment is seen only where a call of code begins with its opening: an opening that
directly follows an operator character is part of that operator, and all that stands behind it is
read as code.
-/

namespace LineLexer.CFamily

open Scan

def HoldsComment (text : List Char) : Prop := ['/', '/'] <:+: text ∨ ['/', '*'] <:+: text

instance (text : List Char) : Decidable (HoldsComment text) :=
  inferInstanceAs (Decidable (_ ∨ _))

/-- A text holds the start of a comment at its front or behind its first character. -/
theorem holdsComment_cons (c : Char) (text : List Char) :
    HoldsComment (c :: text) ↔ BeginsComment (c :: text) ∨ HoldsComment text := by
  simp only [HoldsComment, BeginsComment, List.infix_cons_iff]
  exact or_or_or_comm

/-- What a call on a line makes of operators and of openings of comments, with the text it takes and
the text that lies ahead of it. -/
structure TellsOperators (line : Line) (call : Call) (text ahead : List Char) : Prop where
  place : ∃ passed, line = passed ++ (text ++ ahead) ∧
    call.token = ⟨byteLength passed, byteLength passed + byteLength text, call.cls⟩
  ne_nil : text ≠ []
  /-- An operator is all that follows of operator characters. -/
  run : call.cls = some .operator → (text ++ ahead).takeWhile isOperatorChar = text
  /-- A comment opens in an operator just where one opens behind its first character. -/
  swallows : call.cls = some .operator → (HoldsComment text ↔ HoldsComment text.tail)
  /-- A call of code that begins with the opening of a comment reads a comment. -/
  comment : ∀ value : CodeState, call.state = .code value → value.reading = .base →
    BeginsComment (text ++ ahead) → call.cls = some .comment

/-- What a step of code tells of operators. -/
theorem Step.tellsOperators {text ahead : List Char} {before after : CodeState}
    {cls : Option TokenClass} (h : Step before text ahead cls after) (htext : text ≠ [])
    (base : Cursor) (passed : List Char) :
    TellsOperators (passed ++ (text ++ ahead))
      ⟨base.placed [] passed [] (text ++ ahead), .code before, cls, .code after,
        base.placed [] passed text ahead⟩ text ahead where
  place := ⟨passed, rfl, by simp [Call.token, Cursor.placed]⟩
  ne_nil := htext
  run hcls := by
    cases h with
    | bracket => cases hcls
    | operator _ _ hrun => exact hrun
    | other _ hoperator => exact absurd hcls hoperator
  swallows hcls := by
    cases h with
    | bracket => cases hcls
    | other _ hoperator => exact absurd hcls hoperator
    | operator _ _ _ hcomment =>
      obtain ⟨c, text, rfl⟩ := List.exists_cons_of_ne_nil htext
      have hbegins : ¬ BeginsComment (c :: text) := fun hbegins ↦
        hcomment (hbegins.imp (·.trans (List.prefix_append _ ahead))
          (·.trans (List.prefix_append _ ahead)))
      rw [holdsComment_cons, or_iff_right hbegins, List.tail_cons]
  comment := by
    rintro _ ⟨rfl⟩ hreading hbegins
    cases h with
    | operator _ _ _ hcomment => exact absurd hbegins hcomment
    | other _ _ hcomment => exact hcomment hreading hbegins
    | @bracket c _ _ hc =>
      have hslash : c ≠ '/' := by
        rintro rfl
        exact absurd hc (by decide)
      exact absurd hbegins (not_beginsComment_of_ne hslash ahead)

/-- On every line an operator token is the whole run of operator characters from where it begins.
It holds the opening of a comment just where one stands behind its first character: the opening of a
comment begins a comment only where a call of code begins with it. -/
theorem operator_takes_whole_run (dialect : Dialect) (indentUnit tabSize : Nat) {state : State}
    (hstate : Reachable (ofDialect dialect indentUnit) state) (line : Line) :
    ∃ calls last,
      LineRun (ofDialect dialect indentUnit).readToken (.ofLine line tabSize) 0 state calls none
        last ∧
      tokenizeLine (ofDialect dialect indentUnit) line state tabSize =
        .ok (calls.map Call.token, last) ∧
      ∀ call ∈ calls, ∃ text ahead, TellsOperators line call text ahead := by
  obtain ⟨value, rfl⟩ := (steady_ofDialect dialect indentUnit).fits hstate
  by_cases hline : line = []
  · subst hline
    exact ⟨[], .code value, .done (Nat.le_refl 0), rfl, nofun⟩
  · obtain ⟨calls, last, hcalls, hrun, htokens⟩ :=
      exists_calls dialect indentUnit value hline tabSize
    refine ⟨calls, .code last, hrun, htokens, fun call hcall ↦ ?_⟩
    obtain ⟨before, after, passed, text, ahead, hparts, hlexes, hcall⟩ :=
      lexes_callsAlong hcalls call hcall
    rw [List.nil_append] at hparts
    rw [hparts, hcall]
    exact ⟨text, ahead, hlexes.step.tellsOperators hlexes.ne_nil _ passed⟩

/-- The calls on an assignment with a comment right behind it: the name, one operator up to the text
of the comment, and that text as a name. -/
theorem exists_lineRun_assignment :
    ∃ calls, LineRun (ofDialect .c 4).readToken (.ofLine "a=//b".toList 4) 0
        ((ofDialect .c 4).start 0) calls none ((ofDialect .c 4).start 0) ∧
      tokensOf calls none =
        [⟨0, 1, some .identifier⟩, ⟨1, 4, some .operator⟩, ⟨4, 5, some .identifier⟩] :=
  ⟨_, .advance (by decide) rfl (by decide) (.advance (by decide) rfl (by decide)
    (.advance (by decide) rfl (by decide) (.done (by decide)))), by decide⟩

/-- The operator of that line is the run of three characters, with a comment opening in it. -/
theorem operator_takes_whole_run_assignment :
    Reachable (ofDialect .c 4) ((ofDialect .c 4).start 0) ∧
      ∃ (calls : List Call) (last : State),
        tokenizeLine (ofDialect .c 4) "a=//b".toList ((ofDialect .c 4).start 0) 4 =
          .ok (calls.map Call.token, last) ∧
        ∃ call ∈ calls, call.token = ⟨1, 4, some .operator⟩ ∧
          ∃ text ahead, TellsOperators "a=//b".toList call text ahead ∧
            (text ++ ahead).takeWhile isOperatorChar = text := by
  have hstate : Reachable (ofDialect .c 4) ((ofDialect .c 4).start 0) := .start 0
  obtain ⟨calls, last, _, htokens, hcalls⟩ :=
    operator_takes_whole_run .c 4 4 hstate "a=//b".toList
  obtain ⟨known, hknown, hlist⟩ := exists_lineRun_assignment
  have hmem : ⟨1, 4, some .operator⟩ ∈ calls.map Call.token := by
    have heq := htokens.symm.trans (hknown.tokenizeLine_eq (by decide))
    rw [(Prod.mk.inj (Except.ok.inj heq)).1, hlist]
    decide
  obtain ⟨call, hcall, htoken⟩ := List.mem_map.1 hmem
  obtain ⟨text, ahead, htells⟩ := hcalls call hcall
  have hcls : call.cls = some .operator := congrArg Token.cls htoken
  exact ⟨hstate, calls, last, htokens, call, hcall, htoken, text, ahead, htells, htells.run hcls⟩

/-- The text of that operator holds the opening of the comment. -/
theorem operator_swallows_comment :
    ∃ (tokens : List Token) (last : State),
      tokenizeLine (ofDialect .c 4) "a=//b".toList ((ofDialect .c 4).start 0) 4 =
        .ok (tokens, last) ∧
      ⟨1, 4, some .operator⟩ ∈ tokens ∧ slice? "a=//b".toList 1 4 = some "=//".toList ∧
      HoldsComment "=//".toList := by
  obtain ⟨calls, hrun, htokens⟩ := exists_lineRun_assignment
  refine ⟨_, _, hrun.tokenizeLine_eq (by decide), ?_, by decide, by decide⟩
  rw [htokens]
  decide

end LineLexer.CFamily
