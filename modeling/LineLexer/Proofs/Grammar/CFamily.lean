import LineLexer.Proofs.Grammar.StringText
import LineLexer.Proofs.Highlight.Steady

/-!
# Tokens of the C family

What one call does in code. A string begins at its quote and goes on as its text tells, a comment
begins at its opening, a directive takes the rest of a line, a bracket changes the open brackets, an
operator is a run of operator characters, and every other token leaves the state as it is. A token
takes its first character before anything else: only a number gives it back, and takes it again with
the rest of the number. So the mode of every dialect is steady on code states.
-/

namespace LineLexer.CFamily

open Scan

/-! ## What a call does -/

def BeginsComment (text : List Char) : Prop := ['/', '/'] <+: text ∨ ['/', '*'] <+: text

/-- A string of the dialect begins with the character. -/
def OpensString (dialect : Dialect) (c : Char) : Prop :=
  c = '"' ∨ (c = '\x60' ∧ dialect.templateStrings = true) ∨
    (c = '\'' ∧ dialect.charLiterals = false)

def brackets : List Char := ['(', '[', '\x7b', ')', ']', '\x7d']

/-- The classes of tokens of code that leave the state as it is, operators and directives aside. -/
def quietClasses : List (Option TokenClass) :=
  [none, some .char, some .lifetime, some .error, some .attributeName, some .number,
    some .punctuation, some .keyword, some .atom, some .typeName, some .macroName, some .function,
    some .identifier]

/-- What one call does in a state, after the visible text passed: the text it takes, the text it
leaves ahead, the class and the state after it. -/
inductive Lexes (dialect : Dialect) (state : CodeState) (passed : List Char) :
    List Char → List Char → Option TokenClass → CodeState → Prop where
  | string {quote : Char} {taken ahead : List Char} {cls : Option TokenClass} {after : CodeState}
      (hreading : state.reading = .base) (hopens : OpensString dialect quote)
      (hreads : ReadsString (dialect.multilineStrings = true) state quote taken ahead cls after) :
      Lexes dialect state passed (quote :: taken) ahead cls after
  | stringRest {quote : Char} {taken ahead : List Char} {cls : Option TokenClass}
      {after : CodeState} (hreading : state.reading = .string quote) (htaken : taken ≠ [])
      (hreads : ReadsString (dialect.multilineStrings = true) state quote taken ahead cls after) :
      Lexes dialect state passed taken ahead cls after
  | comment {text ahead : List Char} {reading : Reading} (hreading : state.reading = .base)
      (hcomment : BeginsComment ('/' :: text ++ ahead))
      (hafter : reading ∈ [.base, .blockComment]) :
      Lexes dialect state passed ('/' :: text) ahead (some .comment) { state with reading }
  | commentRest {text ahead : List Char} {reading : Reading}
      (hreading : state.reading = .blockComment) (htext : text ≠ [])
      (hafter : reading ∈ [.base, .blockComment]) :
      Lexes dialect state passed text ahead (some .comment) { state with reading }
  | directive {ahead : List Char} (hreading : state.reading = .base)
      (hdialect : dialect.preprocessor = true) (hpassed : passed.all isWhiteSpace = true) :
      Lexes dialect state passed ('#' :: ahead) [] (some .preprocessor) state
  | bracket {c : Char} {ahead : List Char} (hreading : state.reading = .base) (hc : c ∈ brackets) :
      Lexes dialect state passed [c] ahead (some .bracket)
        { state with contexts := stepContexts state.contexts c }
  | operator {c : Char} {text ahead : List Char} (hreading : state.reading = .base)
      (hc : isOperatorChar c = true)
      (hrun : (c :: text ++ ahead).takeWhile isOperatorChar = c :: text)
      (hcomment : ¬ BeginsComment (c :: text ++ ahead)) :
      Lexes dialect state passed (c :: text) ahead (some .operator) state
  | quiet {c : Char} {text ahead : List Char} {cls : Option TokenClass}
      (hreading : state.reading = .base) (hopens : ¬ OpensString dialect c) (hslash : c ≠ '/')
      (hcls : cls ∈ quietClasses) :
      Lexes dialect state passed (c :: text) ahead cls state

variable (dialect : Dialect) (state : CodeState)

theorem not_beginsComment_of_ne {c : Char} (hc : c ≠ '/') (text : List Char) :
    ¬ BeginsComment (c :: text) := by
  rintro (h | h) <;> exact hc (List.cons_prefix_cons.1 h).1.symm

variable {dialect} in
/-- Strings begin with one of three quotes in every dialect. -/
theorem OpensString.eq_or {c : Char} (h : OpensString dialect c) :
    c = '"' ∨ c = '\x60' ∨ c = '\'' :=
  h.imp_right (Or.imp And.left And.left)

/-! ## Comments -/

/-- The answer is a comment and leaves all but what is being read, which is no string. -/
def IsComment (answer : Option TokenClass × CodeState) : Prop :=
  answer.1 = some .comment ∧
    ∃ reading ∈ [Reading.base, .blockComment], answer.2 = { state with reading }

theorem isComment_base : IsComment state (some .comment, { state with reading := .base }) :=
  ⟨rfl, _, by decide, rfl⟩

theorem isComment_blockComment :
    IsComment state (some .comment, { state with reading := .blockComment }) :=
  ⟨rfl, _, by decide, rfl⟩

theorem forward_readBlockComment : Forward (readBlockComment state) (IsComment state) :=
  .skipOver (.pure (isComment_base state))
    (Forward.skipToEnd.andThen fun _ ↦ .pure (isComment_blockComment state))

theorem takes_readBlockComment : Takes (readBlockComment state) (IsComment state) :=
  .skipOver (by simp) (.pure (isComment_base state)) (.pure (isComment_blockComment state))

/-! ## Tokens that leave the state -/

/-- The answer has the class of such a token and leaves the state. -/
def Quiet (answer : Option TokenClass × CodeState) : Prop :=
  answer.1 ∈ quietClasses ∧ answer.2 = state

theorem quiet_same {cls : Option TokenClass} (hcls : cls ∈ quietClasses) :
    Quiet state (cls, state) := ⟨hcls, rfl⟩

theorem forward_readWord : Forward (readWord dialect) fun cls ↦ some cls ∈ quietClasses := by
  apply Forward.andThen (.eatWhile _)
  intro _
  apply Forward.andThen .current
  intro word
  apply Forward.ite (.pure (by decide))
  apply Forward.ite (.pure (by decide))
  apply Forward.ite (.pure (by decide))
  have hname : Forward (do
      if (← peek) == some '(' then
        return TokenClass.function
      else
        return TokenClass.identifier) fun cls ↦ some cls ∈ quietClasses :=
    Forward.peek.andThen fun _ ↦ .ite (.pure (by decide)) (.pure (by decide))
  apply Forward.ite
  · exact .branch (.eatChar _) (.pure (by decide)) hname
  · exact .andThen (.pure trivial) fun _ ↦ .ite (.pure (by decide)) hname

theorem forward_readCharOrLifetime :
    Forward (readCharOrLifetime dialect) fun cls ↦ some cls ∈ quietClasses := by
  have hescaped : Forward (do
      let _ ← next
      let _ ← eatWhile (· != '\'')
      let _ ← eatChar '\''
      return TokenClass.char) fun cls ↦ some cls ∈ quietClasses :=
    Forward.next.andThen fun _ ↦ .andThen (.eatWhile _) fun _ ↦ .andThen (.eatChar _) fun _ ↦
      .pure (by decide)
  have hlifetime : Forward (do
      if dialect.rustForms then
        let _ ← eatWhile fun c ↦ isAlphanumeric c || c == '_'
        return TokenClass.lifetime
      return TokenClass.error) fun cls ↦ some cls ∈ quietClasses :=
    .ite (.andThen (.eatWhile _) fun _ ↦ .pure (by decide)) (.pure (by decide))
  apply Forward.branch (.eatChar _) hescaped
  apply Forward.andThen .next
  intro first
  exact .ite (.branch (.eatChar _) (.pure (by decide)) hlifetime) hlifetime

/-- A digit that is given back is taken again with its number, or at least with the digits after
it. -/
theorem readNumber_reads {c : Char} (hdigit : c.isDigit = true) (passed ahead : List Char) :
    Reads (do
      backUp 1
      if !(← eatPattern number) then
        let _ ← eatWhile Char.isDigit
      return (some TokenClass.number, state)) passed [c] ahead (Took (Quiet state)) := by
  have hconsumes : number.consumes = true := by decide
  have hanswer : Quiet state (some .number, state) := quiet_same state (by decide)
  refine .bind (.backUp (List.nil_append [c]).symm rfl ?_)
  refine .bind (.eatPattern (fun taken _ _ htaken ↦ .pure ⟨htaken hconsumes, hanswer⟩) ?_)
  refine .bind (.eatSome (fun taken _ _ htaken ↦ .pure ⟨htaken, hanswer⟩) fun hnone ↦ ?_)
  rw [hnone c rfl] at hdigit
  cases hdigit

theorem forward_readAttribute :
    Forward (do
      if dialect.rustForms && (← peek).any (['[', '!'].contains ·) then
        if ← skipTo ']' then
          let _ ← next
        else
          skipToEnd
        return (some TokenClass.attributeName, state)
      else
        return (none, state)) (Quiet state) := by
  have hsame {cls : Option TokenClass} (hcls : cls ∈ quietClasses) := quiet_same state hcls
  apply Forward.andThen .peek
  intro following
  apply Forward.ite _ (.pure (hsame (by decide)))
  exact .branch (.skipToText _) (Forward.next.andThen fun _ ↦ .pure (hsame (by decide)))
    (Forward.skipToEnd.andThen fun _ ↦ .pure (hsame (by decide)))

/-! ## Every call -/

abbrev ReadsToken (action : Scan (Option TokenClass × CodeState))
    (passed token ahead : List Char) : Prop :=
  Reads action passed token ahead fun answer token' ahead' ↦
    Lexes dialect state passed token' ahead' answer.1 answer.2

variable {state} {c : Char} {passed ahead : List Char}
  {action : Scan (Option TokenClass × CodeState)}

theorem lexes_of_quiet (hreading : state.reading = .base) (hopens : ¬ OpensString dialect c)
    (hslash : c ≠ '/') (h : Reads action passed [c] ahead (Took (Quiet state))) :
    ReadsToken dialect state action passed [c] ahead := by
  apply h.with_line.mono
  rintro ⟨cls, after⟩ token ahead' ⟨⟨htoken, hcls, rfl⟩, hline⟩
  obtain ⟨d, text, rfl⟩ := List.exists_cons_of_ne_nil htoken
  obtain rfl : d = c := (List.cons.inj hline).1
  exact .quiet hreading hopens hslash hcls

theorem lexes_of_isComment (hreading : state.reading = .base)
    (hbegins : BeginsComment ('/' :: c :: ahead)) (h : Forward action (IsComment state)) :
    ReadsToken dialect state action passed ['/', c] ahead := by
  apply (h.reads (List.cons_ne_nil _ _)).with_line.mono
  rintro ⟨_, _⟩ token ahead' ⟨⟨htoken, rfl, reading, hafter, rfl⟩, hline⟩
  obtain ⟨d, text, rfl⟩ := List.exists_cons_of_ne_nil htoken
  obtain rfl : d = '/' := (List.cons.inj hline).1
  have hcomment : BeginsComment ('/' :: text ++ ahead') := by rwa [hline]
  exact .comment hreading hcomment hafter

/-- An operator takes all operator characters that follow. -/
theorem lexes_readOperator (hreading : state.reading = .base) (hc : isOperatorChar c = true)
    (hcomment : ¬ BeginsComment (c :: ahead)) :
    ReadsToken dialect state (do
      let _ ← eatWhile isOperatorChar
      return (some TokenClass.operator, state)) passed [c] ahead := by
  have hline : c :: ahead.takeWhile isOperatorChar ++ ahead.dropWhile isOperatorChar =
      c :: ahead := by
    rw [List.cons_append, List.takeWhile_append_dropWhile]
  have hrun : (c :: ahead).takeWhile isOperatorChar = c :: ahead.takeWhile isOperatorChar :=
    List.takeWhile_cons_of_pos hc
  rw [← hline] at hrun hcomment
  exact .bind (.eatWhile (.pure (.operator hreading hc hrun hcomment)))

/-- A slash begins a comment or an operator. -/
theorem lexes_readSlash (hreading : state.reading = .base) :
    ReadsToken dialect state (do
      if ← eatChar '*' then
        readBlockComment state
      else if ← eatChar '/' then
        skipToEnd
        return (some .comment, state)
      else
        let _ ← eatWhile isOperatorChar
        return (some .operator, state)) passed ['/'] ahead := by
  have hbase : IsComment state (some .comment, state) := ⟨rfl, .base, by decide, by rw [← hreading]⟩
  have hline : Forward (do
      skipToEnd
      return (some .comment, state)) (IsComment state) :=
    Forward.skipToEnd.andThen fun _ ↦ .pure hbase
  refine .bind (.eatChar (fun ahead' hahead ↦ ?_) fun hstar ↦ ?_)
  · exact lexes_of_isComment dialect hreading (.inr ⟨ahead', rfl⟩) (forward_readBlockComment state)
  refine .bind (.eatChar (fun ahead' hahead ↦ ?_) fun hslash ↦ ?_)
  · exact lexes_of_isComment dialect hreading (.inl ⟨ahead', rfl⟩) hline
  apply lexes_readOperator dialect hreading (by decide)
  rintro (⟨_, hahead⟩ | ⟨_, hahead⟩)
  · exact hslash (by rw [← (List.cons.inj hahead).2]; rfl)
  · exact hstar (by rw [← (List.cons.inj hahead).2]; rfl)

/-- The cases are those of the first character. -/
theorem lexes_readCode (hreading : state.reading = .base) (c : Char) (passed ahead : List Char) :
    ReadsToken dialect state (readCode dialect state (passed.all isWhiteSpace) c) passed [c]
      ahead := by
  have htoken : [c] ≠ [] := List.cons_ne_nil c []
  have hopens : (c = '"' || (c = '\x60' && dialect.templateStrings) ||
      (c = '\'' && !dialect.charLiterals)) = true ↔ OpensString dialect c := by
    simp [OpensString, or_assoc]
  unfold readCode
  apply Reads.ite
  · intro hquote
    apply (reads_readString dialect state c passed [c] ahead).mono
    rintro answer _ ahead' ⟨taken, rfl, hreads⟩
    exact .string hreading (hopens.1 hquote) hreads
  intro hother
  have hcode : ¬ OpensString dialect c := fun hstarts ↦ hother (hopens.2 hstarts)
  have hsame {cls : Option TokenClass} (hcls : cls ∈ quietClasses) := quiet_same state hcls
  have hquiet {action : Scan (Option TokenClass × CodeState)} (hslash : c ≠ '/')
      (h : Reads action passed [c] ahead (Took (Quiet state))) :=
    lexes_of_quiet dialect hreading hcode hslash h
  have hword : Forward (do return (some (← readWord dialect), state)) (Quiet state) :=
    (forward_readWord dialect).bind fun _ hcls ↦ .pure (hsame hcls)
  have hchar : Forward (do return (some (← readCharOrLifetime dialect), state)) (Quiet state) :=
    (forward_readCharOrLifetime dialect).bind fun _ hcls ↦ .pure (hsame hcls)
  apply Reads.ite
  · rintro rfl
    exact hquiet (by decide) (hchar.reads htoken)
  intro _
  apply Reads.ite
  · rintro rfl
    apply Reads.ite
    · intro hstart
      obtain ⟨hdialect, hline⟩ := Bool.and_eq_true_iff.1 hstart
      exact .bind (.skipToEnd (.pure (.directive hreading hdialect hline)))
    · intro _
      exact hquiet (by decide) ((forward_readAttribute dialect state).reads htoken)
  intro _
  apply Reads.ite fun hdigit ↦
    hquiet (by rintro rfl; cases hdigit) (readNumber_reads state hdigit passed ahead)
  intro _
  apply Reads.ite fun hin ↦ .pure (.bracket hreading (List.contains_iff_mem.1 hin))
  intro _
  apply Reads.ite fun hpoint ↦
    hquiet (by rintro rfl; cases hpoint) (.pure ⟨htoken, hsame (by decide)⟩)
  intro _
  apply Reads.ite fun hstart ↦ hquiet (by rintro rfl; cases hstart) (hword.reads htoken)
  intro _
  apply Reads.ite
  · rintro rfl
    exact lexes_readSlash dialect hreading
  intro hslash
  apply Reads.ite fun hin ↦
    lexes_readOperator dialect hreading hin (not_beginsComment_of_ne hslash ahead)
  intro _
  exact hquiet hslash (.pure ⟨htoken, hsame (by decide)⟩)

/-- In code a call takes the blanks that begin the text, or the first character of a token after
them. -/
theorem readToken_base {post : Option TokenClass × CodeState → List Char → List Char → Prop}
    (hreading : state.reading = .base) (c : Char) (passed ahead : List Char)
    (hblank : isSpace c = true →
      post (none, state) ((c :: ahead).takeWhile isSpace) ((c :: ahead).dropWhile isSpace))
    (hcode : isSpace c = false →
      Reads (readCode dialect state (passed.all isWhiteSpace) c) passed [c] ahead post) :
    Reads (readToken dialect state) passed [] (c :: ahead) post := by
  unfold readToken
  rw [hreading]
  refine .bind (.eatWhile ?_)
  by_cases hspace : isSpace c = true
  · have htaken : ¬ ((c :: ahead).takeWhile isSpace).isEmpty = true := by
      rw [List.takeWhile_cons_of_pos hspace]
      nofun
    rw [Bool.eq_false_iff.2 htaken, List.nil_append]
    exact .pure (hblank hspace)
  · rw [List.takeWhile_cons_of_neg hspace, List.dropWhile_cons_of_neg hspace]
    apply Reads.visible
    rw [List.append_nil, List.append_nil]
    refine .bind (.next (fun d ahead' hahead ↦ ?_) nofun)
    obtain ⟨rfl, rfl⟩ := List.cons.inj hahead
    exact hcode (Bool.eq_false_iff.2 hspace)

/-- What every call does. -/
theorem lexes_readToken (state : CodeState) (passed : List Char) {ahead : List Char}
    (hahead : ahead ≠ []) :
    ReadsToken dialect state (readToken dialect state) passed [] ahead := by
  cases hreading : state.reading with
  | blockComment =>
    unfold readToken
    rw [hreading]
    apply (takes_readBlockComment state passed ahead hahead).mono
    rintro ⟨_, _⟩ token ahead' ⟨htoken, rfl, reading, hafter, rfl⟩
    exact .commentRest hreading htoken hafter
  | string quote =>
    unfold readToken
    rw [hreading]
    apply (reads_readString dialect state quote passed [] ahead).with_line.mono
    rintro answer token ahead' ⟨⟨taken, htoken, hreads⟩, hline⟩
    obtain rfl : token = taken := htoken
    have htext : token ++ ahead' = ahead := hline
    exact .stringRest hreading (hreads.ne_nil (htext ▸ hahead)) hreads
  | base =>
    obtain ⟨c, ahead, rfl⟩ := List.exists_cons_of_ne_nil hahead
    apply readToken_base dialect hreading
    · intro hspace
      have hopens : ¬ OpensString dialect c := by
        intro hopens
        rcases hopens.eq_or with rfl | rfl | rfl <;> cases hspace
      have hslash : c ≠ '/' := by
        rintro rfl
        cases hspace
      have hnone : none ∈ quietClasses := by decide
      rw [List.takeWhile_cons_of_pos hspace]
      exact .quiet hreading hopens hslash hnone
    · intro _
      exact lexes_readCode dialect hreading c passed ahead

variable {dialect}

/-- A call takes at least one character. -/
theorem Lexes.ne_nil {text : List Char} {cls : Option TokenClass} {after : CodeState}
    (h : Lexes dialect state passed text ahead cls after) : text ≠ [] := by
  cases h with
  | stringRest _ htaken => exact htaken
  | commentRest _ htext => exact htext
  | _ => exact List.cons_ne_nil _ _

/-! ## Brackets, operators and comments -/

/-- What one call does to brackets, operators and comments. -/
inductive Step (state : CodeState) :
    List Char → List Char → Option TokenClass → CodeState → Prop where
  | bracket {c : Char} {ahead : List Char} (hreading : state.reading = .base)
      (hc : c ∈ brackets) :
      Step state [c] ahead (some .bracket)
        { state with contexts := stepContexts state.contexts c }
  | operator {text ahead : List Char} (hreading : state.reading = .base) (htext : text ≠ [])
      (hrun : (text ++ ahead).takeWhile isOperatorChar = text)
      (hcomment : ¬ BeginsComment (text ++ ahead)) :
      Step state text ahead (some .operator) state
  | other {text ahead : List Char} {cls : Option TokenClass} {reading : Reading}
      (hbracket : cls ≠ some .bracket) (hoperator : cls ≠ some .operator)
      (hcomment : state.reading = .base → BeginsComment (text ++ ahead) → cls = some .comment) :
      Step state text ahead cls { state with reading }

/-- What a call does is told by the text it takes and the text ahead. -/
theorem Lexes.step {text : List Char} {cls : Option TokenClass} {after : CodeState}
    (h : Lexes dialect state passed text ahead cls after) : Step state text ahead cls after := by
  cases h with
  | @string quote _ _ _ _ _ hopens hreads =>
    have hslash : quote ≠ '/' := by
      rintro rfl
      simp [OpensString] at hopens
    rw [hreads.after_eq, hreads.cls_eq]
    exact .other nofun nofun fun _ hbegins ↦ absurd hbegins (not_beginsComment_of_ne hslash _)
  | stringRest hreading _ hreads =>
    rw [hreads.after_eq, hreads.cls_eq]
    exact .other nofun nofun fun hbase ↦ absurd (hreading.symm.trans hbase) nofun
  | comment | commentRest => exact .other nofun nofun fun _ _ ↦ rfl
  | directive =>
    exact .other nofun nofun fun _ hbegins ↦
      absurd hbegins (not_beginsComment_of_ne (by decide) _)
  | bracket hreading hc => exact .bracket hreading hc
  | operator hreading _ hrun hcomment =>
    exact .operator hreading (List.cons_ne_nil _ _) hrun hcomment
  | quiet _ _ hslash hcls =>
    have hplain : ∀ cls ∈ quietClasses, cls ≠ some .bracket ∧ cls ≠ some .operator := by decide
    exact .other (hplain cls hcls).1 (hplain cls hcls).2 fun _ hbegins ↦
      absurd hbegins (not_beginsComment_of_ne hslash _)

/-! ## The mode -/

variable (dialect)

/-- In every reading a call takes something, if there is something to take. -/
theorem takes_readToken (state : CodeState) : Takes (readToken dialect state) fun _ ↦ True := by
  intro passed ahead hahead
  exact (lexes_readToken dialect state passed hahead).mono fun _ _ _ h ↦ ⟨h.ne_nil, trivial⟩

/-- The states of code are all it ever needs. -/
theorem steady_ofDialect (indentUnit : Nat) :
    (ofDialect dialect indentUnit).Steady fun state ↦ ∃ value, state = .code value where
  start baseIndent := ⟨_, rfl⟩
  copy := by
    rintro _ ⟨value, rfl⟩
    rfl
  skipBlankLine _ _ := rfl
  readToken := by
    rintro _ ⟨value, rfl⟩
    exact (takes_readToken dialect value).bind fun _ _ ↦ .pure ⟨_, rfl⟩

/-! ## Calls -/

variable {dialect} {indentUnit : Nat} {base : Cursor} {hidden : List Char} {value after : CodeState}
  {calls : List Call}

/-- The states between the calls on a text of code are code states. -/
theorem exists_code_of_callsAlong
    {motive : List Char → CodeState → List Char → List Call → CodeState → Prop} {last : State}
    (hnil : ∀ passed value, motive passed value [] [] value)
    (hcons : ∀ {passed text ahead : List Char} {cls : Option TokenClass}
      {value next after : CodeState} {calls : List Call}, text ≠ [] →
      readToken dialect value (base.placed hidden passed [] (text ++ ahead)) =
        .ok ((cls, next), base.placed hidden passed text ahead) →
      motive (passed ++ text) next ahead calls after →
      motive passed value (text ++ ahead)
        (⟨base.placed hidden passed [] (text ++ ahead), .code value, cls, .code next,
          base.placed hidden passed text ahead⟩ :: calls) after)
    (h : CallsAlong (ofDialect dialect indentUnit).readToken base hidden passed (.code value) ahead
      calls last) :
    ∃ after, last = .code after ∧ motive passed value ahead calls after := by
  generalize hstate : State.code value = state at h
  induction h generalizing value with
  | @nil passed state => exact ⟨value, hstate.symm, hnil passed value⟩
  | @cons passed text ahead state after last cls calls htext hcall hrest ih =>
    subst hstate
    have hmode : Reads ((ofDialect dialect indentUnit).readToken (.code value)) passed []
        (text ++ ahead) fun answer token ahead' ↦ ∃ next, answer.2 = .code next ∧
          ∀ base hidden,
            readToken dialect value (Cursor.placed base hidden passed [] (text ++ ahead)) =
              .ok ((answer.1, next), Cursor.placed base hidden passed token ahead') :=
      .bind ((takes_readToken dialect value passed (text ++ ahead) (by simp [htext])).with_run.mono
        fun _ _ _ hrun ↦ .pure ⟨_, rfl, hrun.2⟩)
    obtain ⟨next, hnext, hrun⟩ := hmode.of_run hcall
    obtain rfl : after = .code next := hnext
    obtain ⟨reached, hlast, hmotive⟩ := ih rfl
    exact ⟨reached, hlast, hcons htext (hrun base hidden) hmotive⟩

/-- Induction along the calls on a text of code. -/
@[elab_as_elim]
theorem callsAlong_induction
    {motive : List Char → CodeState → List Char → List Call → CodeState → Prop}
    (hnil : ∀ passed value, motive passed value [] [] value)
    (hcons : ∀ {passed text ahead : List Char} {cls : Option TokenClass}
      {value next after : CodeState} {calls : List Call}, text ≠ [] →
      readToken dialect value (base.placed hidden passed [] (text ++ ahead)) =
        .ok ((cls, next), base.placed hidden passed text ahead) →
      motive (passed ++ text) next ahead calls after →
      motive passed value (text ++ ahead)
        (⟨base.placed hidden passed [] (text ++ ahead), .code value, cls, .code next,
          base.placed hidden passed text ahead⟩ :: calls) after)
    (h : CallsAlong (ofDialect dialect indentUnit).readToken base hidden passed (.code value) ahead
      calls (.code after)) :
    motive passed value ahead calls after := by
  obtain ⟨reached, hlast, hmotive⟩ := exists_code_of_callsAlong hnil hcons h
  obtain rfl : after = reached := State.code.inj hlast
  exact hmotive

/-- The call has read a part of the line, and done there what a call does. -/
def LexesPart (dialect : Dialect) (base : Cursor) (hidden line : List Char) (call : Call) : Prop :=
  ∃ before next passed text ahead, line = passed ++ (text ++ ahead) ∧
    Lexes dialect before passed text ahead call.cls next ∧
    call = ⟨base.placed hidden passed [] (text ++ ahead), .code before, call.cls, .code next,
      base.placed hidden passed text ahead⟩

/-- All calls of a line are parts of it that are lexed in turn. -/
theorem lexes_callsAlong
    (h : CallsAlong (ofDialect dialect indentUnit).readToken base hidden passed (.code value) ahead
      calls (.code after)) :
    ∀ call ∈ calls, LexesPart dialect base hidden (passed ++ ahead) call := by
  refine callsAlong_induction ?_ ?_ h
  · exact fun _ _ ↦ List.forall_mem_nil _
  · intro passed text ahead cls value next after calls htext hcall hcalls
    have hlexes := (lexes_readToken dialect value passed (by simp [htext])).of_run hcall
    rw [List.append_assoc] at hcalls
    rw [List.forall_mem_cons]
    exact ⟨⟨value, next, passed, text, ahead, rfl, hlexes, rfl⟩, hcalls⟩

/-! ## Lines -/

variable (dialect) (indentUnit) (value)

/-- The calls that the loop makes on the visible part of a line. -/
theorem exists_visible_calls (base : Cursor) (hidden line : List Char) :
    ∃ calls after,
      CallsAlong (ofDialect dialect indentUnit).readToken base hidden [] (.code value) line calls
        (.code after) ∧
      LineRun (ofDialect dialect indentUnit).readToken (base.placed hidden [] [] line) 0
        (.code value) calls none (.code after) ∧
      readTokens (ofDialect dialect indentUnit).readToken (base.placed hidden [] [] line) 0
        (.code value) = .ok (calls.map Call.token, .code after) := by
  obtain ⟨calls, last, hcalls, hrun, htokens⟩ :=
    (steady_ofDialect dialect indentUnit).exists_visible_calls ⟨value, rfl⟩ base hidden line
  obtain ⟨after, rfl, _⟩ := exists_code_of_callsAlong (motive := fun _ _ _ _ _ ↦ True)
    (fun _ _ ↦ trivial) (fun _ _ _ ↦ trivial) hcalls
  exact ⟨calls, after, hcalls, hrun, htokens⟩

/-- A line that is not empty is read by calls without a stall, and they give its tokens. -/
theorem exists_calls {line : Line} (hline : line ≠ []) (tabSize : Nat) :
    ∃ calls after,
      CallsAlong (ofDialect dialect indentUnit).readToken (.ofLine line tabSize) [] [] (.code value)
        line calls (.code after) ∧
      LineRun (ofDialect dialect indentUnit).readToken (.ofLine line tabSize) 0 (.code value) calls
        none (.code after) ∧
      tokenizeLine (ofDialect dialect indentUnit) line (.code value) tabSize =
        .ok (calls.map Call.token, .code after) := by
  obtain ⟨calls, after, hcalls, hrun, _⟩ :=
    exists_visible_calls dialect indentUnit value (.ofLine line tabSize) [] line
  rw [Cursor.placed_ofLine] at hrun
  exact ⟨calls, after, hcalls, hrun, hcalls.tokenizeLine_eq hline⟩

/-- Induction along the lines of a text of code. An empty line makes no call. -/
theorem lines_induction {tabSize : Nat}
    {motive : CodeState → List Line → List (List Token × State) → CodeState → Prop}
    (hnil : ∀ value, motive value [] [] value)
    (hempty : ∀ {value last : CodeState} {lines : List Line} {runs : List (List Token × State)},
      motive value lines runs last → motive value ([] :: lines) (([], .code value) :: runs) last)
    (hline : ∀ {value middle last : CodeState} {line : Line} {calls : List Call}
      {lines : List Line} {runs : List (List Token × State)}, line ≠ [] →
      CallsAlong (ofDialect dialect indentUnit).readToken (.ofLine line tabSize) [] [] (.code value)
        line calls (.code middle) →
      motive middle lines runs last →
      motive value (line :: lines) ((calls.map Call.token, .code middle) :: runs) last)
    (lines : List Line) :
    ∃ runs last,
      tokenizeLines (ofDialect dialect indentUnit) tabSize (.code value) lines = .ok runs ∧
      stateAfter (.code value) runs = .code last ∧ motive value lines runs last := by
  induction lines generalizing value with
  | nil => exact ⟨[], value, rfl, rfl, hnil value⟩
  | cons line lines ih =>
    by_cases hblank : line = []
    · subst hblank
      obtain ⟨runs, last, hruns, hlast, hmotive⟩ := ih value
      exact ⟨_, last, tokenizeLines_cons rfl hruns, hlast, hempty hmotive⟩
    · obtain ⟨calls, middle, hcalls, _, htokens⟩ :=
        exists_calls dialect indentUnit value hblank tabSize
      obtain ⟨runs, last, hruns, hlast, hmotive⟩ := ih middle
      exact ⟨_, last, tokenizeLines_cons htokens hruns, hlast, hline hblank hcalls hmotive⟩

/-! ## Dialects -/

/-- The dialect that a configuration names; C is the default. -/
def dialectName (config : ModeConfig) : String := (config.str? "dialect").getD "c"

abbrev ofConfig (config : ModeConfig) (indentUnit : Nat) : Mode :=
  ofDialect (.ofConfig config) indentUnit

/-- Strings go over several lines in Rust alone. -/
theorem multilineStrings_ofConfig (config : ModeConfig) :
    (Dialect.ofConfig config).multilineStrings = true ↔ dialectName config = "rust" := by
  change (Dialect.ofName (dialectName config)).multilineStrings = true ↔ _
  generalize dialectName config = name
  unfold Dialect.ofName
  split <;> simp_all [Dialect.cpp, Dialect.c, Dialect.rust, Dialect.javaScript]

/-- Directives are known to every dialect but Rust and JavaScript. -/
theorem preprocessor_ofConfig (config : ModeConfig) :
    (Dialect.ofConfig config).preprocessor = true ↔
      dialectName config ∉ ["rust", "javascript", "js"] := by
  change (Dialect.ofName (dialectName config)).preprocessor = true ↔ _
  generalize dialectName config = name
  unfold Dialect.ofName
  split <;> simp_all [Dialect.cpp, Dialect.c, Dialect.rust, Dialect.javaScript]

end LineLexer.CFamily
