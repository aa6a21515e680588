import LineLexer.Proofs.Highlight.Steady

/-!
# Texts of several lines

A text with line breaks is read line by line, with one state passed from line to line. Here it is
followed call by call instead: a call takes the next part of the line it stands on, and a line break
begins a new line in the state reached. What is known of the parts of a text is put together in this
way, wherever its line breaks are, and is then turned into the tokens of its lines and into the
state at a place in the middle of a line.
-/

namespace LineLexer

open Scan

/-! ## Lines of a text -/

/-- The lines of a text, between its line breaks. -/
def linesOf (text : List Char) : List Line := text.splitOn '\n'

theorem linesOf_eq_singleton {text : List Char} (htext : '\n' ∉ text) : linesOf text = [text] :=
  List.splitOnP_eq_singleton fun _ hc ↦ beq_eq_false_iff_ne.2 (ne_of_mem_of_not_mem hc htext)

/-- A line with its line break in front of a text is one more line. -/
theorem linesOf_append_lineBreak {line : List Char} (hline : '\n' ∉ line) (text : List Char) :
    linesOf (line ++ '\n' :: text) = line :: linesOf text :=
  List.splitOnP_append_cons_of_forall_mem
    (fun _ hc ↦ beq_eq_false_iff_ne.2 (ne_of_mem_of_not_mem hc hline)) '\n' rfl text

/-- To prove a property of all texts, prove it of a line and of a line before a text that has it. -/
theorem linesInduction {motive : List Char → Prop}
    (last : ∀ line, '\n' ∉ line → motive line)
    (more : ∀ line text, '\n' ∉ line → motive text → motive (line ++ '\n' :: text))
    (text : List Char) : motive text := by
  induction hlength : text.length using Nat.strongRecOn generalizing text with
  | ind length ih =>
    by_cases htext : '\n' ∈ text
    · obtain ⟨line, rest, rfl, hline⟩ := List.eq_append_cons_of_mem htext
      have hshorter : rest.length < length := by
        rw [← hlength, List.length_append, List.length_cons]
        omega
      exact more line rest hline (ih rest.length hshorter rest rfl)
    · exact last text htext

def firstLine (text : List Char) : Line := text.takeWhile (· != '\n')

@[simp] theorem firstLine_lineBreak (text : List Char) : firstLine ('\n' :: text) = [] := rfl

theorem firstLine_append {line : List Char} (hline : '\n' ∉ line) (text : List Char) :
    firstLine (line ++ text) = line ++ firstLine text :=
  List.takeWhile_append_of_pos fun _ hc ↦ bne_iff_ne.2 (ne_of_mem_of_not_mem hc hline)

theorem mem_head?_of_firstLine {c : Char} {text : List Char} (h : c ∈ (firstLine text).head?) :
    c ∈ text.head? := by
  cases text with
  | nil => exact h
  | cons d text =>
    rw [firstLine, List.takeWhile_cons] at h
    split at h
    · exact h
    · cases h

/-! ## Call by call -/

/-- Where the reading of a text stands: what has been passed of the line, the state, and the text
that lies ahead, with its line breaks. -/
structure Stage where
  passed : List Char
  state : State
  ahead : List Char

/-- The operation leads from stage to stage without an error token. -/
inductive Travels (op : TokenOp) : Stage → Stage → Prop where
  | done (stage : Stage) : Travels op stage stage
  | call {passed text ahead : List Char} {state after : State} {cls : Option TokenClass}
      {last : Stage} (htext : text ≠ []) (hline : '\n' ∉ text) (hcls : cls ≠ some .error)
      (hcall : ∀ base hidden,
        op state (Cursor.placed base hidden passed [] (text ++ firstLine ahead)) =
          .ok ((cls, after), Cursor.placed base hidden passed text (firstLine ahead)))
      (hrest : Travels op ⟨passed ++ text, after, ahead⟩ last) :
      Travels op ⟨passed, state, text ++ ahead⟩ last
  | lineBreak {passed ahead : List Char} {state : State} {last : Stage}
      (hrest : Travels op ⟨[], state, ahead⟩ last) : Travels op ⟨passed, state, '\n' :: ahead⟩ last

theorem Travels.trans {op : TokenOp} {first second third : Stage} (h : Travels op first second)
    (h' : Travels op second third) : Travels op first third := by
  induction h with
  | done => exact h'
  | call htext hline hcls hcall _ ih => exact .call htext hline hcls hcall (ih h')
  | lineBreak _ ih => exact .lineBreak (ih h')

/-! ## Line by line -/

/-- The calls have read the line from its start: the calls on the rest of it come after them. -/
def ReadFrom (op : TokenOp) (tabSize : Nat) (start : State) (passed : List Char) (state : State)
    (rest : List Char) (calls : List Call) : Prop :=
  ∀ more last, CallsAlong op (.ofLine (passed ++ rest) tabSize) [] passed state rest more last →
    CallsAlong op (.ofLine (passed ++ rest) tabSize) [] [] start (passed ++ rest) (calls ++ more)
      last

variable {tabSize : Nat}

namespace ReadFrom

variable {op : TokenOp} {start state : State} {passed rest : List Char} {calls : List Call}

theorem lineStart (op : TokenOp) (tabSize : Nat) (state : State) (line : Line) :
    ReadFrom op tabSize state [] state line [] := fun _ _ hmore ↦ hmore

/-- At the end of a line all its calls are known. -/
theorem callsAlong (h : ReadFrom op tabSize start passed state [] calls) :
    CallsAlong op (.ofLine passed tabSize) [] [] start passed calls state := by
  have hcalls := h [] state .nil
  rwa [List.append_nil, List.append_nil] at hcalls

/-- One more call on the line. -/
theorem call {text : List Char} {after : State} {cls : Option TokenClass} (htext : text ≠ [])
    (hcall : ∀ base hidden, op state (Cursor.placed base hidden passed [] (text ++ rest)) =
      .ok ((cls, after), Cursor.placed base hidden passed text rest))
    (h : ReadFrom op tabSize start passed state (text ++ rest) calls) :
    ∃ call, call.cls = cls ∧ call.after = after ∧
      call.reached.pos = byteLength (passed ++ text) ∧
      ReadFrom op tabSize start (passed ++ text) after rest (calls ++ [call]) := by
  let base := Cursor.ofLine (passed ++ (text ++ rest)) tabSize
  refine ⟨⟨base.placed [] passed [] (text ++ rest), state, cls, after,
    base.placed [] passed text rest⟩, rfl, rfl, ?_, fun more last hmore ↦ ?_⟩
  · rw [Cursor.pos_placed_visible, byteLength_append]
  · rw [List.append_assoc] at hmore ⊢
    have hall := h _ last (.cons htext (hcall _ []) hmore)
    rwa [List.append_assoc]

end ReadFrom

/-- The calls on a line give its tokens; an empty line leaves the state to the mode. -/
theorem CallsAlong.tokenizeLine_of_blank {mode : Mode}
    (hblank : ∀ state, mode.skipBlankLine state = state) {line : Line} {start last : State}
    {calls : List Call}
    (h : CallsAlong mode.readToken (.ofLine line tabSize) [] [] start line calls last) :
    tokenizeLine mode line start tabSize = .ok (calls.map Call.token, last) := by
  by_cases hline : line = []
  · subst hline
    generalize hempty : ([] : List Char) = text at h
    cases h with
    | nil =>
      change Except.ok ([], mode.skipBlankLine start) = _
      rw [hblank]
      rfl
    | cons htext => exact absurd (List.append_eq_nil_iff.1 hempty.symm).1 htext
  · exact h.tokenizeLine_eq hline

def NoErrors (runs : List (List Token × State)) : Prop :=
  ∀ run ∈ runs, ∀ token ∈ run.1, token.cls ≠ some .error

theorem noErrors_cons {calls : List Call} {after : State} {runs : List (List Token × State)}
    (hcalls : ∀ call ∈ calls, call.cls ≠ some .error) (hruns : NoErrors runs) :
    NoErrors ((calls.map Call.token, after) :: runs) :=
  List.forall_mem_cons.2 ⟨List.forall_mem_map.2 hcalls, hruns⟩

/-- A text that is read to its end gives tokens on all of its lines, and no error among them. -/
theorem Travels.exists_runs {mode : Mode} (hblank : ∀ state, mode.skipBlankLine state = state)
    {stage last : Stage} (h : Travels mode.readToken stage last) (hend : last.ahead = [])
    (hpassed : '\n' ∉ stage.passed) {start : State} {calls : List Call}
    (hcalls : ∀ call ∈ calls, call.cls ≠ some .error)
    (hread : ReadFrom mode.readToken tabSize start stage.passed stage.state
      (firstLine stage.ahead) calls) :
    ∃ runs, tokenizeLines mode tabSize start (linesOf (stage.passed ++ stage.ahead)) = .ok runs ∧
      NoErrors runs ∧ stateAfter start runs = last.state := by
  induction h generalizing start calls with
  | done stage =>
    rw [hend] at hread ⊢
    rw [List.append_nil, linesOf_eq_singleton hpassed]
    have hline := hread.callsAlong.tokenizeLine_of_blank hblank
    exact ⟨_, tokenizeLines_cons hline rfl, noErrors_cons hcalls nofun, rfl⟩
  | @call passed text ahead state after cls last htext hline hcls hcall _ ih =>
    rw [firstLine_append hline] at hread
    obtain ⟨call, hcall, _, _, hread'⟩ := hread.call htext hcall
    have hpassed' : '\n' ∉ passed ++ text := by simpa using ⟨hpassed, hline⟩
    have hcalls' : ∀ other ∈ calls ++ [call], other.cls ≠ some .error := by
      rw [List.forall_mem_append, List.forall_mem_singleton, hcall]
      exact ⟨hcalls, hcls⟩
    have hruns := ih hend hpassed' hcalls' hread'
    rwa [List.append_assoc] at hruns
  | @lineBreak passed ahead state last _ ih =>
    have hline := hread.callsAlong.tokenizeLine_of_blank hblank
    obtain ⟨runs, hruns, hclean, hlast⟩ :=
      ih hend List.not_mem_nil (List.forall_mem_nil _) (.lineStart mode.readToken tabSize state _)
    rw [linesOf_append_lineBreak hpassed]
    exact ⟨_, tokenizeLines_cons hline hruns, noErrors_cons hcalls hclean, hlast⟩

/-! ## Places in a text -/

/-- The state between two parts of a text, which is read from its start in the state `start`: the
lines before the place are passed first, and on its own line a call comes to the place. -/
inductive StateAt (mode : Mode) (tabSize : Nat) :
    State → List Char → List Char → State → Prop where
  | line {start last : State} {before after : List Char} {calls others : List Call} {call : Call}
      (hbefore : '\n' ∉ before)
      (hrun : LineRun mode.readToken (.ofLine (before ++ firstLine after) tabSize) 0 start
        (calls ++ call :: others) none last)
      (hreached : call.reached.pos = byteLength before) :
      StateAt mode tabSize start before after call.after
  | lineBreak {start middle state : State} {line before after : List Char} {tokens : List Token}
      (hline : '\n' ∉ line) (htokens : tokenizeLine mode line start tabSize = .ok (tokens, middle))
      (hrest : StateAt mode tabSize middle before after state) :
      StateAt mode tabSize start (line ++ '\n' :: before) after state

/-- A call after a text that is read comes to a place, if the rest of its line can be read. -/
theorem Travels.exists_stateAt {mode : Mode} (hblank : ∀ state, mode.skipBlankLine state = state)
    {stage : Stage} {passed text ahead : List Char} {state after : State}
    {cls : Option TokenClass}
    (h : Travels mode.readToken stage ⟨passed, state, text ++ ahead⟩) (htext : text ≠ [])
    (hline : '\n' ∉ text)
    (hcall : ∀ base hidden,
      mode.readToken state (Cursor.placed base hidden passed [] (text ++ firstLine ahead)) =
        .ok ((cls, after), Cursor.placed base hidden passed text (firstLine ahead)))
    (hrest : ∃ pieces last,
      ReadsAs mode.readToken (passed ++ text) after (firstLine ahead) pieces last)
    (hpassed : '\n' ∉ stage.passed) {start : State} {calls : List Call}
    (hread : ReadFrom mode.readToken tabSize start stage.passed stage.state
      (firstLine stage.ahead) calls) :
    ∃ earlier, stage.ahead = earlier ++ (text ++ ahead) ∧
      StateAt mode tabSize start (stage.passed ++ (earlier ++ text)) ahead after := by
  generalize hlast : (⟨passed, state, text ++ ahead⟩ : Stage) = last at h
  induction h generalizing start calls with
  | done stage =>
    subst hlast
    dsimp only at hread hpassed
    rw [firstLine_append hline] at hread
    obtain ⟨call, _, rfl, hreached, hread'⟩ := hread.call htext hcall
    obtain ⟨pieces, last, hpieces⟩ := hrest
    obtain ⟨others, hothers, _⟩ :=
      hpieces.exists_callsAlong (.ofLine (passed ++ text ++ firstLine ahead) tabSize) []
    have hcalls := hread' others last hothers
    rw [List.append_assoc calls] at hcalls
    have hbefore : '\n' ∉ passed ++ text := by simpa using ⟨hpassed, hline⟩
    exact ⟨[], rfl, .line hbefore (hcalls.lineRun (Cursor.beginToken_ofLine _ tabSize) 0) hreached⟩
  | @call passed' text' ahead' state' after' cls' last htext' hline' _ hcall' _ ih =>
    rw [firstLine_append hline'] at hread
    obtain ⟨call, _, _, _, hread'⟩ := hread.call htext' hcall'
    have hpassed' : '\n' ∉ passed' ++ text' := by simpa using ⟨hpassed, hline'⟩
    obtain ⟨earlier, rfl, hstate⟩ := ih hpassed' hread' hlast
    refine ⟨text' ++ earlier, by simp, ?_⟩
    simpa using hstate
  | @lineBreak passed' ahead' state' last _ ih =>
    have hline' := hread.callsAlong.tokenizeLine_of_blank hblank
    obtain ⟨earlier, rfl, hstate⟩ :=
      ih List.not_mem_nil (.lineStart mode.readToken tabSize state' _) hlast
    exact ⟨'\n' :: earlier, rfl, .lineBreak hpassed hline' hstate⟩

end LineLexer
