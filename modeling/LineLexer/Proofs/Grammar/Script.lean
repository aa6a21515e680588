import LineLexer.Proofs.Grammar.Html
import LineLexer.Proofs.Grammar.Tags

/-!
# Scripts in HTML

One call of the mode of documents over the mode of XML is a call of the markup or of the script. It
enters a script where it takes the angle bracket after which a script is the innermost open element,
and leaves one exactly where the end of a script stands next. What later lemmas say of scripts is
read off these few steps.
-/

namespace LineLexer.HtmlGrammar

open Scan XmlGrammar

def InScript (state : State) : Prop :=
  ∃ record : Record, state = .record record ∧ record.contains "local" = true

theorem inScript_scriptState (outer inside : State) : InScript (scriptState outer inside) :=
  ⟨_, rfl, rfl⟩

theorem not_inScript_documentState (outer : State) : ¬ InScript (documentState outer) := by
  rintro ⟨record, hrecord, hlocal⟩
  obtain rfl := State.record.inj hrecord
  cases hlocal

/-! ## Entering a script -/

/-- The text completes a tag, and a script is then the innermost open element. -/
structure EntersScript (outer : Record) (text : List Char) (next : Record) : Prop where
  inTag : Construct.ofRecord outer = .tag
  text_eq : text = ['>']
  scriptOpen : ScriptOpen (.record next)

theorem not_scriptOpen_of_ne_text {record : Record} (h : Construct.ofRecord record ≠ .text) :
    ¬ ScriptOpen (.record record) := by
  rw [ScriptOpen, openElement?_of_ne_text h]
  exact Bool.false_ne_true

theorem scriptOpen_text {record : Record} (h : ScriptOpen (.record record)) :
    Construct.ofRecord record = .text :=
  Decidable.byContradiction fun hne ↦ not_scriptOpen_of_ne_text hne h

theorem ne_text_of_inTag {record : Record} (h : InTag record) :
    Construct.ofRecord record ≠ .text := by
  rcases h with h | h <;> simp [h]

/-- A script is never entered by the name of a tag nor by a tag that closes itself. -/
theorem entersScript_iff {outer next : Record} {text : List Char} {cls : Option TokenClass}
    (h : XmlGrammar.Step outer text cls next) :
    EntersScript outer text next ↔ cls = some .tag ∧ text.getLast? = some '>' ∧
      ¬ ['/', '>'] <:+ text ∧ ScriptOpen (.record next) := by
  constructor
  · rintro ⟨hinTag, rfl, hopen⟩
    refine ⟨?_, rfl, by decide, hopen⟩
    cases h with
    | complete _ => rfl
    | other _ hsame =>
      have hnext : InTag next := hsame.inTag.2 (.inl hinTag)
      exact absurd hopen (not_scriptOpen_of_ne_text (ne_text_of_inTag hnext))
  · rintro ⟨hcls, _, hsuffix, hopen⟩
    cases h with
    | @name name closing _ _ _ =>
      have hnext : Construct.ofRecord (nameTag outer name closing) = .tag :=
        ofRecord_setConstruct _ _
      exact absurd hopen (not_scriptOpen_of_ne_text (by rw [hnext]; decide))
    | selfClosing _ => exact absurd List.suffix_rfl hsuffix
    | complete hinTag => exact ⟨hinTag, rfl, hopen⟩
    | other hother _ => exact absurd hcls hother

/-- A script is opened exactly by the `>` of a tag that is no empty element, where markup has a
script innermost. -/
theorem reads_opensScript (cls : Option TokenClass) (outer : State)
    (passed token ahead : List Char) :
    Reads (opensScript cls outer) passed token ahead fun opened token' ahead' ↦
      (opened = true ↔ cls = some .tag ∧ token.getLast? = some '>' ∧ ¬ ['/', '>'] <:+ token ∧
        ScriptOpen outer) ∧ token' = token ∧ ahead' = ahead := by
  refine .ite (fun hcls ↦ .bind (.current (.pure ⟨?_, rfl, rfl⟩))) fun hcls ↦ .pure ⟨?_, rfl, rfl⟩
  · simp [hcls, ScriptOpen, and_assoc, ← List.isSuffixOf_iff_suffix]
  · simp [hcls]

/-! ## Steps -/

variable {markup script : Mode}

/-- The mode answers in the state after the text passed: it takes a text of the text ahead. -/
def Answers (mode : Mode) (state : State) (passed ahead token ahead' : List Char)
    (cls : Option TokenClass) (after : State) : Prop :=
  ∀ base hidden, mode.readToken state (Cursor.placed base hidden passed [] ahead) =
    .ok ((cls, after), Cursor.placed base hidden passed token ahead')

/-- What one call does from a state after the text passed: the text it takes of the text ahead, the
class, and the state it leaves. -/
inductive Step (markup script : Mode) (passed ahead : List Char) :
    State → List Char → List Char → Option TokenClass → State → Prop where
  | markup {outer next : Record} {token ahead' : List Char} {cls : Option TokenClass}
      (hanswer : Answers markup (.record outer) passed ahead token ahead' cls (.record next))
      (hstep : XmlGrammar.Step outer token cls next) (henters : ¬ EntersScript outer token next) :
      Step markup script passed ahead (documentState (.record outer)) token ahead' cls
        (documentState (.record next))
  | enter {outer next : Record} {token ahead' : List Char} {cls : Option TokenClass}
      (hanswer : Answers markup (.record outer) passed ahead token ahead' cls (.record next))
      (hstep : XmlGrammar.Step outer token cls next) (henters : EntersScript outer token next) :
      Step markup script passed ahead (documentState (.record outer)) token ahead' cls
        (scriptState (.record next)
          (script.start ((markup.suggestIndent (.record next) []).getD 0)))
  | leave {outer next : Record} {inside : State} {token ahead' : List Char}
      {cls : Option TokenClass} (hend : BeginsScriptEnd ahead)
      (hanswer : Answers markup (.record outer) passed ahead token ahead' cls (.record next)) :
      Step markup script passed ahead (scriptState (.record outer) inside) token ahead' cls
        (documentState (.record next))
  | script {outer inside next : State} {taken rest token ahead' : List Char}
      {cls : Option TokenClass} (hend : ¬ BeginsScriptEnd ahead)
      (hanswer : Answers script inside passed ahead taken rest cls next)
      (hcut : CutToken taken token ahead') :
      Step markup script passed ahead (scriptState outer inside) token ahead' cls
        (scriptState outer next)

variable {indentUnit : Nat} {passed ahead : List Char}

/-- Markup is read as XML reads it, and then looked at for the start of a script. -/
theorem steps_readDocument (hmarkup : markup.readToken = (XmlGrammar.mode indentUnit).readToken)
    (outer : Record) :
    Reads (readDocument markup script (.ofList [("html", .state (.record outer))])) passed [] ahead
      fun answer token ahead' ↦ ∃ next,
        Answers markup (.record outer) passed ahead token ahead' answer.1 (.record next) ∧
        XmlGrammar.Step outer token answer.1 next ∧
        (EntersScript outer token next → State.record answer.2 = scriptState (.record next)
          (script.start ((markup.suggestIndent (.record next) []).getD 0))) ∧
        (¬ EntersScript outer token next →
          State.record answer.2 = documentState (.record next)) := by
  have hreads := (reads_mode indentUnit (XmlGrammar.steps_readToken outer passed ahead)).with_run
  rw [← hmarkup] at hreads
  refine .bind (hreads.mono ?_)
  rintro ⟨cls, _⟩ token ahead' ⟨⟨next, rfl, hstep⟩, hanswer⟩
  refine .bind ((reads_opensScript cls (.record next) passed token ahead').mono ?_)
  rintro opened _ _ ⟨hopened, rfl, rfl⟩
  rw [← entersScript_iff hstep] at hopened
  cases opened with
  | true => exact .pure ⟨next, hanswer, hstep, fun _ ↦ rfl, fun hno ↦ absurd (hopened.1 rfl) hno⟩
  | false =>
    refine .pure ⟨next, hanswer, hstep, fun henters ↦ ?_, fun _ ↦ rfl⟩
    exact absurd (hopened.2 henters) Bool.false_ne_true

/-- The modes of a document: markup that is read as XML, and scripts. -/
structure Parts (markup script : Mode) (ScriptFits : State → Prop) : Prop where
  xml : ∃ indentUnit, markup.readToken = (XmlGrammar.mode indentUnit).readToken
  markup : markup.Steady KnowsTag
  script : script.Steady ScriptFits

variable {ScriptFits : State → Prop}

theorem Parts.steady (h : Parts markup script ScriptFits) :
    (mode markup script).Steady (Fits KnowsTag ScriptFits) :=
  steady_mode h.markup h.script

/-- Every call takes a step. -/
theorem steps_readToken (h : Parts markup script ScriptFits) {state : State}
    (hstate : Fits KnowsTag ScriptFits state) (hahead : ahead ≠ []) :
    Reads ((mode markup script).readToken state) passed [] ahead fun answer token ahead' ↦
      Step markup script passed ahead state token ahead' answer.1 answer.2 := by
  obtain ⟨indentUnit, hmarkup⟩ := h.xml
  cases hstate with
  | document houter =>
    obtain ⟨outer, rfl, _⟩ := houter
    refine .bind ((steps_readDocument hmarkup outer).mono ?_)
    rintro ⟨cls, record⟩ token ahead' ⟨next, hanswer, hstep, hyes, hno⟩
    refine .pure ?_
    by_cases henters : EntersScript outer token next
    · rw [hyes henters]
      exact .enter hanswer hstep henters
    · rw [hno henters]
      exact .markup hanswer hstep henters
  | @script _ inside houter hopen hinside =>
    obtain ⟨outer, rfl, _⟩ := houter
    refine .bind (.bind (.rest (.ite (fun hend ↦ ?_) fun hend ↦ ?_)))
    · refine (steps_readDocument hmarkup outer).mono ?_
      rintro ⟨cls, record⟩ token ahead' ⟨next, hanswer, _, _, hno⟩
      -- Around a script the markup is in text content: no tag can be complete after one call.
      have houtside : ¬ EntersScript outer token next := by
        intro henters
        have htext := scriptOpen_text hopen
        rw [henters.inTag] at htext
        cases htext
      refine .pure ?_
      rw [hno houtside]
      exact .leave (startsWithIgnoringCase_iff.1 hend) hanswer
    · have hnot : ¬ BeginsScriptEnd ahead := mt startsWithIgnoringCase_iff.2 hend
      obtain ⟨⟨cls, next⟩, taken, rest, hline, ⟨htaken, _⟩, hanswer⟩ :=
        h.script.readToken inside hinside passed ahead hahead
      rw [List.nil_append] at hline
      subst hline
      refine .bind ⟨(cls, next), taken, rest, rfl, ?_, hanswer⟩
      refine .bind ((backUpBeforeScriptEnd_reads passed htaken hnot).mono ?_)
      intro _ token ahead' hcut
      exact .pure (.pure (.script hnot hanswer hcut))

/-! ## Where a script ends -/

/-- The end of a script stands at an offset of the line. -/
def ScriptEndAt (line : Line) (offset : Nat) : Prop :=
  ∃ before after, line = before ++ after ∧ byteLength before = offset ∧ BeginsScriptEnd after

/-- The end of a script stands at the length of the text before it. -/
theorem scriptEndAt_append {before after : List Char} :
    ScriptEndAt (before ++ after) (byteLength before) ↔ BeginsScriptEnd after := by
  constructor
  · rintro ⟨before', after', hline, hlength, hend⟩
    rw [(append_inj_of_byteLength hline hlength.symm).2]
    exact hend
  · exact fun hend ↦ ⟨before, after, rfl, rfl, hend⟩

/-- The first end of a script from an offset on. -/
structure NextScriptEnd (line : Line) (offset found : Nat) : Prop where
  le : offset ≤ found
  occurs : ScriptEndAt line found
  least : ∀ other, offset ≤ other → ScriptEndAt line other → found ≤ other

theorem NextScriptEnd.unique {line : Line} {offset found other : Nat}
    (h : NextScriptEnd line offset found) (hother : NextScriptEnd line offset other) :
    found = other :=
  Nat.le_antisymm (h.least other hother.le hother.occurs) (hother.least found h.le h.occurs)

theorem nextScriptEnd_of_scriptEndAt {line : Line} {offset : Nat} (h : ScriptEndAt line offset) :
    NextScriptEnd line offset offset :=
  ⟨Nat.le_refl offset, h, fun _ hle _ ↦ hle⟩

theorem not_beginsScriptEnd_nil : ¬ BeginsScriptEnd [] := by decide

namespace CutToken

variable {taken token ahead' : List Char}

/-- No end of a script begins inside a token of the script. -/
theorem le_of_scriptEndAt (h : CutToken taken token ahead')
    (hbegin : ¬ BeginsScriptEnd (token ++ ahead')) {offset : Nat} (hle : byteLength passed ≤ offset)
    (hoffset : ScriptEndAt (passed ++ (token ++ ahead')) offset) :
    byteLength passed + byteLength token ≤ offset := by
  obtain ⟨before, after, hline, rfl, hend⟩ := hoffset
  obtain ⟨first, rfl, hrest⟩ : ∃ first, before = passed ++ first ∧
      token ++ ahead' = first ++ after := by
    rcases List.append_eq_append_iff.1 hline with ⟨first, hfirst, hrest⟩ | ⟨first, rfl, rfl⟩
    · exact ⟨first, hfirst, hrest⟩
    · have hnil : first = [] := byteLength_eq_zero_iff.1 (by simp at hle; omega)
      subst hnil
      exact ⟨[], by simp, rfl⟩
  refine Nat.le_of_not_lt fun hinside ↦ ?_
  obtain ⟨second, rfl, rfl⟩ : ∃ second, token = first ++ second ∧ after = second ++ ahead' := by
    rcases List.append_eq_append_iff.1 hrest with ⟨more, rfl, _⟩ | ⟨second, htoken, hafter⟩
    · simp only [byteLength_append] at hinside
      omega
    · exact ⟨second, htoken, hafter⟩
  have hsecond : second ≠ [] := by
    rintro rfl
    simp at hinside
  by_cases hfirst : first = []
  · subst hfirst
    exact hbegin (by simpa using hend)
  · exact h.inside first second rfl hfirst hsecond hend

/-- Where a token gave something back, the next end of a script follows it. -/
theorem nextScriptEnd (h : CutToken taken token ahead')
    (hbegin : ¬ BeginsScriptEnd (token ++ ahead')) (hend : BeginsScriptEnd ahead') :
    NextScriptEnd (passed ++ (token ++ ahead')) (byteLength passed)
      (byteLength passed + byteLength token) := by
  refine ⟨Nat.le_add_right _ _, ?_, fun _ ↦ h.le_of_scriptEndAt hbegin⟩
  rw [← byteLength_append, ← List.append_assoc]
  exact scriptEndAt_append.2 hend

/-- A token of a script stops at the next end, or earlier where the script stops it. -/
theorem stop_eq_min (h : CutToken taken token ahead')
    (hbegin : ¬ BeginsScriptEnd (token ++ ahead')) {found : Nat}
    (hfound : NextScriptEnd (passed ++ (token ++ ahead')) (byteLength passed) found) :
    byteLength passed + byteLength token = min (byteLength passed + byteLength taken) found := by
  rcases h.ends with rfl | hend
  · exact (Nat.min_eq_left (h.le_of_scriptEndAt hbegin hfound.le hfound.occurs)).symm
  · obtain ⟨given, rfl⟩ := h.kept
    rw [hfound.unique (h.nextScriptEnd hbegin hend), byteLength_append]
    omega

/-- Without a further end nothing is cut off. -/
theorem eq_of_no_scriptEnd (h : CutToken taken token ahead')
    (hbegin : ¬ BeginsScriptEnd (token ++ ahead'))
    (hno : ∀ found, ¬ NextScriptEnd (passed ++ (token ++ ahead')) (byteLength passed) found) :
    token = taken :=
  h.ends.resolve_right fun hend ↦ hno _ (h.nextScriptEnd hbegin hend)

end CutToken

/-! ## Calls inside a script -/

/-- What a call inside a script does: at the end of a script it answers as the markup and leaves the
script, elsewhere it answers as the script but stops where the next end of a script begins. -/
structure AnswersInScript (markup script : Mode) (line : Line) (call : Call)
    (outer inside : State) : Prop where
  state_eq : call.state = scriptState outer inside
  atEnd : ScriptEndAt line call.cursor.pos → ∃ next,
    markup.readToken outer call.cursor = .ok ((call.cls, next), call.reached) ∧
      call.after = documentState next
  beforeEnd : ¬ ScriptEndAt line call.cursor.pos → ∃ next reached,
    script.readToken inside call.cursor = .ok ((call.cls, next), reached) ∧
      call.after = scriptState outer next ∧ call.cursor.pos < call.reached.pos ∧
      (∀ found, NextScriptEnd line call.cursor.pos found →
        call.reached.pos = min reached.pos found) ∧
      ((∀ found, ¬ NextScriptEnd line call.cursor.pos found) → call.reached.pos = reached.pos) ∧
      ∀ offset, call.cursor.pos ≤ offset → offset < call.reached.pos → ¬ ScriptEndAt line offset

variable {base : Cursor} {token ahead' : List Char} {cls : Option TokenClass} {state after : State}

/-- In a script every step is answered as the script or the end of it tells. -/
theorem Step.answersInScript
    (h : Step markup script passed (token ++ ahead') state token ahead' cls after)
    (hstate : InScript state) :
    ∃ outer inside, AnswersInScript markup script (passed ++ (token ++ ahead'))
      ⟨base.placed [] passed [] (token ++ ahead'), state, cls, after,
        base.placed [] passed token ahead'⟩ outer inside := by
  have hpos : (base.placed [] passed [] (token ++ ahead')).pos = byteLength passed :=
    Cursor.pos_placed_visible base passed [] (token ++ ahead')
  cases h with
  | markup => exact absurd hstate (not_inScript_documentState _)
  | enter => exact absurd hstate (not_inScript_documentState _)
  | @leave outer next inside _ _ _ hend hanswer =>
    refine ⟨.record outer, inside, rfl, fun _ ↦ ⟨.record next, hanswer base [], rfl⟩, fun hno ↦ ?_⟩
    rw [hpos, scriptEndAt_append] at hno
    exact absurd hend hno
  | @script outer inside next taken rest _ _ _ hend hanswer hcut =>
    refine ⟨outer, inside, rfl, fun hat ↦ ?_, fun _ ↦
      ⟨next, base.placed [] passed taken rest, hanswer base [], rfl, ?_⟩⟩
    · rw [hpos, scriptEndAt_append] at hat
      exact absurd hat hend
    · have hlength := byteLength_pos_iff.2 hcut.ne_nil
      simp only [hpos, Cursor.pos_placed_visible]
      refine ⟨by omega, fun found ↦ hcut.stop_eq_min hend, ?_, ?_⟩
      · intro hno
        rw [hcut.eq_of_no_scriptEnd hend hno]
      · intro offset hle hlt hat
        exact absurd (hcut.le_of_scriptEndAt hend hle hat) (Nat.not_le.2 hlt)

/-! ## The calls on a line -/

variable {last : State} {calls : List Call}

/-- Before every call on a line the state fits, and with the call begin those on the rest of the
line. -/
theorem exists_calls_from (h : Parts markup script ScriptFits) {before : List Call}
    (hcalls : CallsAlong (mode markup script).readToken base [] passed state ahead (before ++ calls)
      last)
    (hfits : Fits KnowsTag ScriptFits state) :
    ∃ passed' state' ahead', passed' ++ ahead' = passed ++ ahead ∧
      Fits KnowsTag ScriptFits state' ∧
      CallsAlong (mode markup script).readToken base [] passed' state' ahead' calls last :=
  hcalls.exists_from (fun hstate hahead hcall ↦ h.steady.fits_of_call hstate hahead hcall) hfits

/-- The first call on a text takes a step. -/
theorem exists_first_step (h : Parts markup script ScriptFits) {call : Call}
    (hcalls : CallsAlong (mode markup script).readToken base [] passed state ahead (call :: calls)
      last)
    (hfits : Fits KnowsTag ScriptFits state) :
    ∃ token ahead' cls after, ahead = token ++ ahead' ∧
      call = ⟨base.placed [] passed [] (token ++ ahead'), state, cls, after,
        base.placed [] passed token ahead'⟩ ∧
      Step markup script passed (token ++ ahead') state token ahead' cls after ∧
      Fits KnowsTag ScriptFits after ∧
      CallsAlong (mode markup script).readToken base [] (passed ++ token) after ahead' calls
        last := by
  cases hcalls with
  | @cons _ token ahead' _ after _ cls _ htoken hcall hcalls =>
    have hahead : token ++ ahead' ≠ [] := by simp [htoken]
    exact ⟨token, ahead', cls, after, rfl, rfl, (steps_readToken h hfits hahead).of_run hcall,
      h.steady.fits_of_call hfits hahead hcall, hcalls⟩

/-- A script goes on until a call that stands where it ends. -/
theorem exists_leaving (h : Parts markup script ScriptFits)
    (hcalls : CallsAlong (mode markup script).readToken base [] passed state ahead calls last)
    (hfits : Fits KnowsTag ScriptFits state) (hstate : InScript state) {found : Nat}
    (hfound : NextScriptEnd (passed ++ ahead) (byteLength passed) found) :
    ∃ body leaving others, calls = body ++ leaving :: others ∧
      (∀ call ∈ body, InScript call.state) ∧ InScript leaving.state ∧
      leaving.cursor.pos = found := by
  induction calls generalizing passed state ahead with
  | nil =>
    cases hcalls
    obtain ⟨before, after, hline, rfl, hend⟩ := hfound.occurs
    have hlength := hfound.le
    have hafter : after = [] := by
      rw [List.append_nil] at hline
      rw [hline, byteLength_append] at hlength
      exact byteLength_eq_zero_iff.1 (by omega)
    subst hafter
    exact absurd hend not_beginsScriptEnd_nil
  | cons call calls ih =>
    obtain ⟨token, ahead', cls, after, rfl, rfl, hstep, hafter, hrest⟩ :=
      exists_first_step h hcalls hfits
    have hpos : (base.placed [] passed [] (token ++ ahead')).pos = byteLength passed :=
      Cursor.pos_placed_visible base passed [] (token ++ ahead')
    cases hstep with
    | markup => exact absurd hstate (not_inScript_documentState _)
    | enter => exact absurd hstate (not_inScript_documentState _)
    | leave hend _ =>
      have hhere : NextScriptEnd (passed ++ (token ++ ahead')) (byteLength passed)
          (byteLength passed) :=
        nextScriptEnd_of_scriptEndAt (scriptEndAt_append.2 hend)
      exact ⟨[], _, calls, rfl, by simp, hstate, hpos.trans (hhere.unique hfound)⟩
    | script hend _ hcut =>
      -- A token of the script stops before the end that was found, so it is still the next one.
      have hnext : NextScriptEnd (passed ++ token ++ ahead') (byteLength (passed ++ token))
          found := by
        rw [List.append_assoc, byteLength_append]
        refine ⟨hcut.le_of_scriptEndAt hend hfound.le hfound.occurs, hfound.occurs, ?_⟩
        exact fun other hle ↦ hfound.least other (by omega)
      obtain ⟨body, leaving, others, rfl, hbody, hleaving, hat⟩ :=
        ih hrest hafter (inScript_scriptState _ _) hnext
      refine ⟨_ :: body, leaving, others, rfl, ?_, hleaving, hat⟩
      intro call hmem
      rcases List.mem_cons.1 hmem with rfl | hin
      · exact hstate
      · exact hbody call hin

end LineLexer.HtmlGrammar
