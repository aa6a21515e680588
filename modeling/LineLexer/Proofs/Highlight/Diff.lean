import LineLexer.Proofs.Registry.Embedding

/-!
# The lines of a diff

What the mode of diffs makes of a list of lines, told by the mode of their content alone: on a
content line a token for the marker and then the tokens of the content, one byte further right; on
every other line one token. The state of the content goes from content line to content line, past
all the others, as if there were nothing else.
-/

namespace LineLexer

open Outcome

/-- Labels of a mode have no part in reading. -/
theorem tokenizeLines_labelled (mode : Mode) (name : String) (helperType : Option String)
    (props : Table (Overridable Property)) (tabSize : Nat) (state : State) (lines : List Line) :
    tokenizeLines { mode with name, helperType, props } tabSize state lines =
      tokenizeLines mode tabSize state lines := by
  induction lines generalizing state with
  | nil => rfl
  | cons line lines ih =>
    simp only [tokenizeLines, ih]
    rfl

namespace PatchGrammar

/-- What follows the marker on the content lines. -/
def contents (lines : List Line) : List Line :=
  lines.filterMap fun line ↦ (content? line).map Prod.snd

theorem contents_cons_some {line text : Line} {cls : TokenClass} {lines : List Line}
    (h : content? line = some (cls, text)) : contents (line :: lines) = text :: contents lines := by
  rw [contents, List.filterMap_cons, h]
  rfl

theorem contents_cons_none {line : Line} {lines : List Line} (h : content? line = none) :
    contents (line :: lines) = contents lines := by
  rw [contents, List.filterMap_cons, h]
  rfl

/-- The tokens of one line of a diff, and the state of the content after it. -/
inductive DiffLine (inner : Mode) (tabSize : Nat) (nested : State) :
    Line → List Token → State → Prop where
  | content {marker : Char} {text : Line} {cls : TokenClass} {tokens : List Token} {after : State}
      (hheader : isHeader (marker :: text) = false) (hmarker : (marker, cls) ∈ markers)
      (htext : tokenizeLine inner text nested tabSize = .ok (tokens, after)) :
      DiffLine inner tabSize nested (marker :: text)
        (⟨0, 1, some cls⟩ :: tokens.map (Token.shift 1)) after
  | header {line : Line} (hheader : isHeader line = true) :
      DiffLine inner tabSize nested line [⟨0, byteLength line, some .header⟩] nested
  | other {first : Char} {text : Line} (hheader : isHeader (first :: text) = false)
      (hmarker : ∀ cls, (first, cls) ∉ markers) :
      DiffLine inner tabSize nested (first :: text)
        [⟨0, byteLength (first :: text), some .marker⟩] nested
  | blank : DiffLine inner tabSize nested [] [] nested

/-- The tokens of the lines of a diff and the states after them, and the last state of the
content. -/
inductive DiffRun (inner : Mode) (tabSize : Nat) :
    State → List Line → List (List Token × State) → State → Prop where
  | nil {nested : State} : DiffRun inner tabSize nested [] [] nested
  | cons {nested after last : State} {line : Line} {tokens : List Token} {lines : List Line}
      {runs : List (List Token × State)} (hline : DiffLine inner tabSize nested line tokens after)
      (hrest : DiffRun inner tabSize after lines runs last) :
      DiffRun inner tabSize nested (line :: lines) ((tokens, stateOver after) :: runs) last

variable {inner : Mode} {InnerFits : State → Prop} {nested last : State} {tabSize : Nat}

/-! ## One line -/

/-- A content line has the tokens of the text alone, one byte further on, behind that of its marker.
-/
theorem exists_content_line (hinner : inner.Steady InnerFits) (hnested : InnerFits nested)
    (tabSize : Nat) {marker : Char} {text : Line} {cls : TokenClass}
    (hheader : isHeader (marker :: text) = false) (hmarker : markerClass? marker = some cls) :
    ∃ tokens after, tokenizeLine inner text nested tabSize = .ok (tokens, after) ∧
      tokenizeLine (mode inner) (marker :: text) (stateOver nested) tabSize =
        .ok (⟨0, 1, some cls⟩ :: tokens.map (Token.shift 1), stateOver after) ∧
      InnerFits after := by
  obtain ⟨pieces, last, hreads, hlast⟩ := hinner.exists_readsAs hnested [] text
  have hpatch : tokenizeLine (mode inner) (marker :: text) (stateOver nested) tabSize =
      .ok (tokensFrom 0 (⟨[marker], some cls⟩ :: pieces), stateOver last) :=
    (readsAs_content hheader hmarker hreads).tokenizeLine_eq (List.cons_ne_nil marker text) tabSize
  have htokens : tokensFrom 0 (⟨[marker], some cls⟩ :: pieces) =
      ⟨0, 1, some cls⟩ :: (tokensFrom 0 pieces).map (Token.shift 1) := by
    calc
      tokensFrom 0 (⟨[marker], some cls⟩ :: pieces) = ⟨0, 1, some cls⟩ :: tokensFrom (1 + 0) pieces := by
        rw [tokensFrom, byteLength_marker hmarker]
      _ = ⟨0, 1, some cls⟩ :: (tokensFrom 0 pieces).map (Token.shift 1) := by
        rw [tokensFrom_add]
  have htext : tokenizeLine inner text nested tabSize = .ok (tokensFrom 0 pieces, last) := by
    by_cases hempty : text = []
    · subst hempty
      obtain ⟨rfl, rfl⟩ := hreads.eq_nil rfl
      rw [tokenizeLine, if_pos List.isEmpty_nil, hinner.skipBlankLine last hnested]
      rfl
    · exact hreads.tokenizeLine_eq hempty tabSize
  rw [htokens] at hpatch
  exact ⟨_, last, htext, hpatch, hlast⟩

/-- A line that is no content line is one token. -/
theorem diffLine_of_content?_eq_none {line : Line} (hline : line ≠ []) (hcontent : content? line = none)
    (nested : State) :
    DiffLine inner tabSize nested line [⟨0, byteLength line, some (wholeLineClass line)⟩] nested := by
  cases line with
  | nil => exact absurd rfl hline
  | cons first text =>
    rw [wholeLineClass]
    cases hheader : isHeader (first :: text) with
    | true => exact .header hheader
    | false =>
      rw [content?, hheader, if_neg Bool.false_ne_true, Option.map_eq_none_iff, lookup_markers]
        at hcontent
      refine .other hheader fun cls hmem ↦ ?_
      rw [mem_markers_iff.1 hmem] at hcontent
      cases hcontent

/-- One line of a diff, by the mode of diffs and by the mode of its content. -/
theorem exists_diffLine (hinner : inner.Steady InnerFits) (hnested : InnerFits nested)
    (tabSize : Nat) (line : Line) :
    ∃ tokens after, DiffLine inner tabSize nested line tokens after ∧
      tokenizeLine (mode inner) line (stateOver nested) tabSize = .ok (tokens, stateOver after) ∧
      InnerFits after := by
  by_cases hline : line = []
  · subst hline
    refine ⟨[], nested, .blank, ?_, hnested⟩
    rw [tokenizeLine, if_pos List.isEmpty_nil, skipBlankLine_stateOver,
      hinner.skipBlankLine nested hnested]
  · cases hcontent : content? line with
    | none =>
      have hreads : ReadsAs (mode inner).readToken [] (stateOver nested) line
          [⟨line, some (wholeLineClass line)⟩] (stateOver nested) :=
        readsAs_whole hline hcontent nested
      refine ⟨_, nested, diffLine_of_content?_eq_none hline hcontent nested, ?_, hnested⟩
      rw [hreads.tokenizeLine_eq hline tabSize, tokensFrom, tokensFrom, Nat.zero_add]
    | some found =>
      obtain ⟨marker, rfl, hheader, hmarker⟩ := content?_eq_some hcontent
      obtain ⟨tokens, after, htext, hpatch, hafter⟩ :=
        exists_content_line hinner hnested tabSize hheader hmarker
      exact ⟨_, after, .content hheader (mem_markers_iff.2 hmarker) htext, hpatch, hafter⟩

/-! ## All lines -/

/-- The mode of diffs makes of a list of lines what its content asks for. -/
theorem exists_diffRun (hinner : inner.Steady InnerFits) (hnested : InnerFits nested)
    (tabSize : Nat) (lines : List Line) :
    ∃ runs last, DiffRun inner tabSize nested lines runs last ∧
      tokenizeLines (mode inner) tabSize (stateOver nested) lines = .ok runs ∧
      stateAfter (stateOver nested) runs = stateOver last := by
  induction lines generalizing nested with
  | nil => exact ⟨[], nested, .nil, rfl, rfl⟩
  | cons line lines ih =>
    obtain ⟨tokens, after, hline, hok, hafter⟩ := exists_diffLine hinner hnested tabSize line
    obtain ⟨runs, last, hrest, hlines, hlast⟩ := ih hafter
    exact ⟨_, last, .cons hline hrest, tokenizeLines_cons hok hlines, hlast⟩

/-- The content goes through the states that its mode goes through alone. -/
theorem DiffRun.exists_contents {lines : List Line} {runs : List (List Token × State)}
    (h : DiffRun inner tabSize nested lines runs last) :
    ∃ innerRuns, tokenizeLines inner tabSize nested (contents lines) = .ok innerRuns ∧
      stateAfter nested innerRuns = last := by
  induction h with
  | nil => exact ⟨[], rfl, rfl⟩
  | cons hline _ ih =>
    obtain ⟨innerRuns, hruns, hlast⟩ := ih
    cases hline with
    | content hheader hmarker htext =>
      rw [contents_cons_some (content?_cons hheader (mem_markers_iff.1 hmarker))]
      exact ⟨_, tokenizeLines_cons htext hruns, hlast⟩
    | header hheader =>
      refine ⟨innerRuns, ?_, hlast⟩
      rw [contents_cons_none (content?_of_header hheader)]
      exact hruns
    | other hheader hmarker =>
      refine ⟨innerRuns, ?_, hlast⟩
      rw [contents_cons_none (content?_of_no_marker hmarker)]
      exact hruns
    | blank => exact ⟨innerRuns, hruns, hlast⟩

/-- A specification that leads to diffs selects a bundled mode for their content. Over any bundled
mode, the mode of diffs reads every list of lines to its end: it reads the content lines as the mode
of the content reads their contents alone, and ends with the state that this mode ends in. -/
theorem patch_reads_contents :
    (∀ (options : ModeOptions) (spec : Spec) (config : ModeConfig),
      Registry.bundled.resolve spec = .ok config → config.name = "patch" →
        Bundled (Registry.bundled.getMode options (.name (Registry.innerName config))) ∧
        ∃ name helperType props, Registry.bundled.getMode options spec =
          { mode (Registry.bundled.getMode options (.name (Registry.innerName config))) with
            name, helperType, props }) ∧
    ∀ inner, Bundled inner →
      ∀ (name : String) (helperType : Option String) (props : Table (Overridable Property))
        (baseIndent tabSize : Nat) (lines : List Line),
        let patch : Mode := { mode inner with name, helperType, props }
        ∃ runs last innerRuns,
          tokenizeLines patch tabSize (patch.start baseIndent) lines = .ok runs ∧
          DiffRun inner tabSize (inner.start baseIndent) lines runs last ∧
          stateAfter (patch.start baseIndent) runs = stateOver last ∧
          tokenizeLines inner tabSize (inner.start baseIndent) (contents lines) = .ok innerRuns ∧
          stateAfter (inner.start baseIndent) innerRuns = last := by
  constructor
  · intro options spec config hspec hname
    exact ⟨Registry.bundled_getMode Registry.hasBundled_bundled options _,
      Registry.getMode_patch hspec hname options⟩
  · intro inner hinner name helperType props baseIndent tabSize lines
    obtain ⟨InnerFits, hsteady⟩ := hinner.exists_steady
    obtain ⟨runs, last, hrun, hlines, hlast⟩ :=
      exists_diffRun hsteady (hsteady.start baseIndent) tabSize lines
    obtain ⟨innerRuns, hcontents, hinnerLast⟩ := hrun.exists_contents
    refine ⟨runs, last, innerRuns, ?_, hrun, hlast, hcontents, hinnerLast⟩
    rw [tokenizeLines_labelled]
    exact hlines

/-- The states of a diff in and behind a comment of its content. -/
def Sample.inComment : State := stateOver (.code ⟨.blockComment, [], 2⟩)

def Sample.behindComment : State := stateOver (.code ⟨.base, [], 2⟩)

/-- A comment that begins on one content line and ends on the next, past a header and an empty
line. -/
theorem patch_reads_contents_comment :
    Bundled (Registry.bundled.getMode {} (.name "text/x-rustsrc")) ∧
    ∃ innerRuns,
      tokenizeLines (CFamily.ofDialect .rust 4) 4 ((CFamily.ofDialect .rust 4).start 2)
        [" /* a".toList, "b */ c".toList] = .ok innerRuns ∧
      stateAfter ((CFamily.ofDialect .rust 4).start 2) innerRuns = .code ⟨.base, [], 2⟩ ∧
      tokenizeLines (mode (CFamily.ofDialect .rust 4)) 4
          ((mode (CFamily.ofDialect .rust 4)).start 2)
          ["+ /* a".toList, "@@ x".toList, [], "-b */ c".toList] =
        .ok [([⟨0, 1, some .inserted⟩, ⟨1, 2, none⟩, ⟨2, 6, some .comment⟩], Sample.inComment),
          ([⟨0, 4, some .header⟩], Sample.inComment), ([], Sample.inComment),
          ([⟨0, 1, some .deleted⟩, ⟨1, 5, some .comment⟩, ⟨5, 6, none⟩, ⟨6, 7, some .identifier⟩],
            Sample.behindComment)] := by
  have hselected := patch_reads_contents.1 {}
    (.config { name := "patch", options := .ofList [("inner", .str "text/x-rustsrc")] }) _
    (Registry.resolveFrom_of_find?_eq_none rfl) rfl
  obtain ⟨runs, last, innerRuns, hruns, _, hlast, hcontents, hinnerLast⟩ :=
    patch_reads_contents.2 _ (.code .rust 4) "" none {} 2 4
      ["+ /* a".toList, "@@ x".toList, [], "-b */ c".toList]
  rw [tokenizeLines_labelled] at hruns
  -- The marker, a blank and the open comment.
  have hinserted : LineRun (mode (CFamily.ofDialect .rust 4)).readToken (.ofLine "+ /* a".toList 4) 0
      ((mode (CFamily.ofDialect .rust 4)).start 2) _ none Sample.inComment :=
    .advance (by decide) rfl (by decide) (.advance (by decide) rfl (by decide)
      (.advance (by decide) rfl (by decide) (.done (by decide))))
  have hheader : LineRun (mode (CFamily.ofDialect .rust 4)).readToken (.ofLine "@@ x".toList 4) 0
      Sample.inComment _ none Sample.inComment :=
    .advance (by decide) rfl (by decide) (.done (by decide))
  -- The marker, the rest of the comment, a blank and a word.
  have hdeleted : LineRun (mode (CFamily.ofDialect .rust 4)).readToken (.ofLine "-b */ c".toList 4) 0
      Sample.inComment _ none Sample.behindComment :=
    .advance (by decide) rfl (by decide) (.advance (by decide) rfl (by decide)
      (.advance (by decide) rfl (by decide) (.advance (by decide) rfl (by decide)
        (.done (by decide)))))
  have hfirst : tokenizeLine (mode (CFamily.ofDialect .rust 4)) "+ /* a".toList
      ((mode (CFamily.ofDialect .rust 4)).start 2) 4 =
        .ok ([⟨0, 1, some .inserted⟩, ⟨1, 2, none⟩, ⟨2, 6, some .comment⟩], Sample.inComment) :=
    hinserted.tokenizeLine_eq (by decide)
  have hsecond : tokenizeLine (mode (CFamily.ofDialect .rust 4)) "@@ x".toList Sample.inComment 4 =
      .ok ([⟨0, 4, some .header⟩], Sample.inComment) := hheader.tokenizeLine_eq (by decide)
  have hthird : tokenizeLine (mode (CFamily.ofDialect .rust 4)) [] Sample.inComment 4 =
      .ok ([], Sample.inComment) := rfl
  have hfourth : tokenizeLine (mode (CFamily.ofDialect .rust 4)) "-b */ c".toList
      Sample.inComment 4 =
        .ok ([⟨0, 1, some .deleted⟩, ⟨1, 5, some .comment⟩, ⟨5, 6, none⟩, ⟨6, 7, some .identifier⟩],
          Sample.behindComment) := hdeleted.tokenizeLine_eq (by decide)
  have hend : tokenizeLines (mode (CFamily.ofDialect .rust 4)) 4 Sample.behindComment [] = .ok [] :=
    rfl
  have hknown := tokenizeLines_cons hfirst (tokenizeLines_cons hsecond
    (tokenizeLines_cons hthird (tokenizeLines_cons hfourth hend)))
  obtain rfl := Except.ok.inj (hruns.symm.trans hknown)
  obtain rfl : .code ⟨.base, [], 2⟩ = last := Option.some_inj.1 (congrArg innerState? hlast)
  exact ⟨hselected.1, innerRuns, hcontents, hinnerLast, hknown⟩

end PatchGrammar

end LineLexer
