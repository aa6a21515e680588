import LineLexer.Proofs.Grammar.Script

/-!
# Tags that open and close scripts

A script is entered by the angle bracket that completes a tag after which a script is the innermost
open element. The start tag of a script is such a tag. So is an end tag that leaves a script open,
as it does where the elements are not closed by the name that is on the tag: open elements are
compared letter by letter, scripts are recognised in upper and lower case.
-/

namespace LineLexer.HtmlGrammar

open Scan XmlGrammar

variable {markup script : Mode} {ScriptFits : State → Prop} {base : Cursor}
  {passed ahead token ahead' : List Char} {cls : Option TokenClass} {state after last : State}
  {calls : List Call}

/-! ## Scripts and open elements -/

/-- The name of a script, in upper or lower case. -/
def IsScriptName (name : String) : Prop :=
  eqIgnoringAsciiCase name.toList "script".toList = true

/-- Letters count in either case. -/
theorem isScriptName_iff {name : String} :
    IsScriptName name ↔ name.toList.map asciiLower = "script".toList := by
  have hlower : "script".toList.map asciiLower = "script".toList := by decide
  rw [IsScriptName, eqIgnoringAsciiCase, beq_iff_eq, hlower]

def InnermostScript (elements : List Field) : Prop :=
  ∃ name, elements.getLast? = some (.str name) ∧ IsScriptName name

theorem innermostScript_append {elements : List Field} {name : String} :
    InnermostScript (elements ++ [.str name]) ↔ IsScriptName name := by
  simp [InnermostScript]

/-- Between constructs the elements that are open tell whether a script is. -/
theorem scriptOpen_iff {record : Record} (h : Construct.ofRecord record = .text) :
    ScriptOpen (.record record) ↔ InnermostScript (record.list "tagStack") := by
  rw [ScriptOpen, openElement?_of_text h, InnermostScript]
  cases (record.list "tagStack").getLast? with
  | none => simp
  | some element => cases element <;> simp [Field.str?, IsScriptName]

/-- Once the tag being read is complete, a script is the innermost open element: it is the start tag
of a script, or an end tag that leaves a script open around it. -/
def CompletesToScript (record : Record) (name : String) : Prop :=
  if record.bool "closing" then InnermostScript (closeElement name (record.list "tagStack"))
  else IsScriptName name

theorem completesToScript_iff {record : Record} {name : String} :
    CompletesToScript record name ↔ InnermostScript (elementsAfter record name) := by
  rw [CompletesToScript, elementsAfter]
  split
  · rfl
  · exact innermostScript_append.symm

/-- Completing a tag leaves a script open exactly if the tag completes to one. -/
theorem scriptOpen_completeTag {record : Record} {name : String}
    (hname : record.str? "tagName" = some name) :
    ScriptOpen (.record (completeTag record)) ↔ CompletesToScript record name := by
  rw [completesToScript_iff, scriptOpen_iff (ofRecord_completeTag record),
    list_tagStack_completeTag hname]

/-- The markup answers as XML reads. -/
theorem Answers.of_reads (h : Parts markup script ScriptFits) {outer next : Record}
    {post : Option TokenClass × Record → List Char → List Char → Prop}
    (hanswer : Answers markup (.record outer) passed ahead token ahead' cls (.record next))
    (hreads : Reads (XmlGrammar.readToken outer) passed [] ahead post) :
    post (cls, next) token ahead' := by
  obtain ⟨indentUnit, hxml⟩ := h.xml
  have hrun := hanswer (.ofLine [] 0) []
  rw [hxml] at hrun
  obtain ⟨_, hnext, hpost⟩ := (reads_mode indentUnit hreads).of_run hrun
  cases hnext
  exact hpost

/-- A script is entered exactly by the angle bracket that completes a tag to it. -/
theorem entersScript_iff_completes (h : Parts markup script ScriptFits) {outer next : Record}
    (houter : Named outer)
    (hanswer : Answers markup (.record outer) passed (token ++ ahead') token ahead' cls
      (.record next)) :
    EntersScript outer token next ↔ Construct.ofRecord outer = .tag ∧ token = ['>'] ∧
      ∃ name, outer.str? "tagName" = some name ∧ CompletesToScript outer name := by
  constructor
  · rintro ⟨hinTag, rfl, hopen⟩
    obtain ⟨hpair, _⟩ := hanswer.of_reads h (readToken_tagEnd hinTag passed ahead')
    obtain rfl := (Prod.mk.inj hpair).2
    obtain ⟨name, hname⟩ := houter (.inl hinTag)
    exact ⟨hinTag, rfl, name, hname, (scriptOpen_completeTag hname).1 hopen⟩
  · rintro ⟨hinTag, rfl, name, hname, hcompletes⟩
    obtain ⟨hpair, _⟩ := hanswer.of_reads h (readToken_tagEnd hinTag passed ahead')
    obtain rfl := (Prod.mk.inj hpair).2
    exact ⟨hinTag, rfl, (scriptOpen_completeTag hname).2 hcompletes⟩

theorem documentState_inj {outer other : State} (h : documentState outer = documentState other) :
    outer = other := by
  cases h
  rfl

/-- What a step of the markup does to scripts. -/
theorem Step.inScript_iff
    (h : Step markup script passed (token ++ ahead') state token ahead' cls after)
    (hparts : Parts markup script ScriptFits) {outer : Record}
    (hstate : state = documentState (.record outer)) (houter : Named outer) :
    InScript after ↔ Construct.ofRecord outer = .tag ∧ token = ['>'] ∧
      ∃ name, outer.str? "tagName" = some name ∧ CompletesToScript outer name := by
  cases h with
  | markup hanswer _ henters =>
    cases documentState_inj hstate
    rw [entersScript_iff_completes hparts houter hanswer] at henters
    exact iff_of_false (not_inScript_documentState _) henters
  | enter hanswer _ henters =>
    cases documentState_inj hstate
    rw [entersScript_iff_completes hparts houter hanswer] at henters
    exact iff_of_true (inScript_scriptState _ _) henters
  | leave => cases hstate
  | script => cases hstate

/-- The call takes the angle bracket that completes a tag, and a script is then the innermost open
element. -/
def CompletesScriptTag (line : Line) (call : Call) : Prop :=
  ∃ (outer : Record) (name : String), call.state = documentState (.record outer) ∧
    Construct.ofRecord outer = .tag ∧
    outer.str? "tagName" = some name ∧
    slice? line call.cursor.pos call.reached.pos = some ['>'] ∧ CompletesToScript outer name

/-- Outside of scripts, a script is entered by the tags that leave one open, and by nothing else. -/
theorem inScript_after_iff (h : Parts markup script ScriptFits) {call : Call}
    (hcalls : CallsAlong (mode markup script).readToken base [] passed state ahead (call :: calls)
      last)
    (hfits : Fits KnowsTag ScriptFits state) (hstate : ¬ InScript call.state) :
    InScript call.after ↔ CompletesScriptTag (passed ++ ahead) call := by
  obtain ⟨token, ahead', cls, after, rfl, rfl, hstep, _, _⟩ := exists_first_step h hcalls hfits
  cases hfits with
  | document houter =>
    obtain ⟨outer, rfl, hnamed⟩ := houter
    have hslice := slice?_placed base passed token ahead'
    rw [hstep.inScript_iff h rfl hnamed]
    constructor
    · rintro ⟨hinTag, rfl, name, hname, hcompletes⟩
      exact ⟨outer, name, rfl, hinTag, hname, hslice, hcompletes⟩
    · rintro ⟨outer', name, hsame, hinTag, hname, hbracket, hcompletes⟩
      cases documentState_inj hsame
      exact ⟨hinTag, Option.some.inj (hslice.symm.trans hbracket), name, hname, hcompletes⟩
  | script => exact absurd (inScript_scriptState _ _) hstate

/-! ## The end tag of a script -/

/-- The name of a script element is a name of markup. -/
theorem isNameChar_of_isScriptName {name : List Char} (h : IsScriptName (String.ofList name)) :
    ∀ c ∈ name, isNameChar c = true := by
  have hlower := isScriptName_iff.1 h
  rw [String.toList_ofList] at hlower
  have hletters : "script".toList.all (fun d ↦
      isNameChar d && isNameChar (Char.ofNat (d.toNat - 32))) = true := rfl
  intro c hc
  have hmem : asciiLower c ∈ "script".toList := hlower ▸ List.mem_map_of_mem hc
  obtain ⟨hsmall, hcapital⟩ := Bool.and_eq_true_iff.1 (List.all_eq_true.1 hletters _ hmem)
  rcases eq_of_asciiLower_eq (c := c) rfl with heq | heq <;> rw [heq]
  · exact hsmall
  · exact hcapital

/-- An end tag of a script element is where a script ends. -/
theorem beginsScriptEnd_tagStart {name ahead : List Char} (h : IsScriptName (String.ofList name)) :
    BeginsScriptEnd (tagStart name true ++ ahead) := by
  have hlower := isScriptName_iff.1 h
  rw [String.toList_ofList] at hlower
  refine ⟨tagStart name true, ahead, rfl, ?_⟩
  change '<' :: '/' :: name.map asciiLower = scriptEnd
  rw [hlower]
  rfl

/-- A call at the end tag of a script takes its beginning and leaves the script. -/
theorem Step.of_endTag {name rest : List Char}
    (h : Step markup script passed (tagStart name true ++ '>' :: rest) state token ahead' cls after)
    (hparts : Parts markup script ScriptFits) {outer : Record} {inside : State}
    (hstate : state = scriptState (.record outer) inside) (hopen : ScriptOpen (.record outer))
    (hname : IsScriptName (String.ofList name)) :
    token = tagStart name true ∧ after = documentState (.record (nameTag outer name true)) := by
  have hnil : name ≠ [] := by
    rintro rfl
    cases hname
  cases h with
  | markup => cases hstate
  | enter => cases hstate
  | leave _ hanswer =>
    cases hstate
    obtain ⟨hpair, htoken⟩ := hanswer.of_reads hparts
      (readToken_endTag (scriptOpen_text hopen) hnil (isNameChar_of_isScriptName hname) passed rest)
    obtain rfl := (Prod.mk.inj hpair).2
    exact ⟨htoken, rfl⟩
  | script hend => exact absurd (beginsScriptEnd_tagStart hname) hend

/-- A call at the angle bracket that completes a tag takes the bracket. -/
theorem Step.of_tagEnd {rest : List Char}
    (h : Step markup script passed ('>' :: rest) state token ahead' cls after)
    (hparts : Parts markup script ScriptFits) {outer : Record}
    (hstate : state = documentState (.record outer)) (houter : Construct.ofRecord outer = .tag) :
    token = ['>'] := by
  cases h with
  | markup hanswer =>
    cases hstate
    exact (hanswer.of_reads hparts (readToken_tagEnd houter passed rest)).2
  | enter hanswer =>
    cases hstate
    exact (hanswer.of_reads hparts (readToken_tagEnd houter passed rest)).2
  | leave => cases hstate
  | script => cases hstate

/-- The end tag of a script is read by two calls. The first leaves the script; the second completes
the tag, and a script is read again if the tag leaves one open. -/
theorem exists_endTag_calls (h : Parts markup script ScriptFits) {first : Call}
    {name rest : List Char} (hname : IsScriptName (String.ofList name))
    (hcalls : CallsAlong (mode markup script).readToken base [] passed state
      (tagStart name true ++ '>' :: rest) (first :: calls) last)
    (hfits : Fits KnowsTag ScriptFits state) (hstate : InScript first.state) :
    ∃ (outer : Record) (inside : State) (second : Call) (others : List Call),
      first.state = scriptState (.record outer) inside ∧ calls = second :: others ∧
      ¬ InScript first.after ∧ second.state = first.after ∧
      slice? (passed ++ (tagStart name true ++ '>' :: rest)) second.cursor.pos second.reached.pos =
        some ['>'] ∧
      (InScript second.after ↔
        InnermostScript (closeElement (String.ofList name) (outer.list "tagStack"))) := by
  obtain ⟨token, ahead, cls, after, hahead, rfl, hstep, hafter, hrest⟩ :=
    exists_first_step h hcalls hfits
  cases hfits with
  | document => exact absurd hstate (not_inScript_documentState _)
  | @script _ inside houter hopen _ =>
    obtain ⟨outer, rfl, _⟩ := houter
    -- The first call takes all but the bracket, so the second begins at the bracket.
    rw [← hahead] at hstep
    obtain ⟨rfl, rfl⟩ := hstep.of_endTag h rfl hopen hname
    obtain rfl := List.append_cancel_left hahead
    obtain ⟨second, others, rfl⟩ := hrest.exists_first (by simp)
    obtain ⟨token, ahead, cls, after, hahead', rfl, hstep', _, _⟩ :=
      exists_first_step h hrest hafter
    have hinTag : Construct.ofRecord (nameTag outer name true) = .tag := ofRecord_setConstruct _ _
    have htag : (nameTag outer name true).str? "tagName" = some (String.ofList name) :=
      str?_tagName_nameTag outer name true
    have hbracket : token = ['>'] := by
      rw [← hahead'] at hstep'
      exact hstep'.of_tagEnd h rfl hinTag
    subst hbracket
    obtain rfl := (List.cons.inj hahead').2
    refine ⟨outer, inside, _, others, rfl, rfl, not_inScript_documentState _, rfl, ?_, ?_⟩
    · have hslice := slice?_placed base (passed ++ tagStart name true) ['>'] rest
      rw [List.append_assoc] at hslice
      exact hslice
    · rw [hstep'.inScript_iff h rfl fun _ ↦ ⟨_, htag⟩, ← elementsAfter_nameTag_closing,
        ← completesToScript_iff]
      simp [hinTag, htag]

end LineLexer.HtmlGrammar
