import LineLexer.Grammar.Patch
import LineLexer.Proofs.Highlight.Steady
import LineLexer.Proofs.Highlight.Visited

/-!
# Diffs as their content

The mode of diffs reads the first character of a content line as its marker, and the rest just as
the mode of the content reads it alone. Every other line is one token. Over a steady mode the mode
of diffs is steady again, so diffs of diffs are read in the same way.
-/

namespace LineLexer.PatchGrammar

open Scan Outcome

/-! ## Lines of a diff -/

/-- The markers of content lines, each with the class of its token. -/
def markers : List (Char × TokenClass) := [('+', .inserted), ('-', .deleted), (' ', .marker)]

def isHeader (line : Line) : Bool :=
  ["@@", "+++", "---", "diff ", "index "].any (·.toList.isPrefixOf line)

/-- The class of the marker of a content line, and the line without it. -/
def content? : Line → Option (TokenClass × Line)
  | [] => none
  | marker :: text =>
    if isHeader (marker :: text) then none else (markers.lookup marker).map (·, text)

/-- The grammar looks for these headers. -/
theorem isHeader_eq (line : Line) : isHeader line = headerStarts.any (·.isPrefixOf line) := rfl

/-- The grammar takes these markers, and gives them these classes. -/
theorem lookup_markers (marker : Char) : markers.lookup marker = markerClass? marker := by
  unfold markers markerClass?
  split
  · rfl
  · rfl
  · rfl
  · rename_i hplus hminus hspace
    simp only [List.lookup_cons, beq_false_of_ne hplus, beq_false_of_ne hminus,
      beq_false_of_ne hspace, List.lookup_nil]

/-- These are all the markers of the grammar. -/
theorem mem_markers_iff {marker : Char} {cls : TokenClass} :
    (marker, cls) ∈ markers ↔ markerClass? marker = some cls := by
  unfold markers markerClass?
  split <;> simp_all [eq_comm]

def wholeLineClass (line : Line) : TokenClass := if isHeader line then .header else .marker

/-- A content line is a marker and a text, and no header. -/
theorem content?_eq_some {line text : Line} {cls : TokenClass} (h : content? line = some (cls, text)) :
    ∃ marker, line = marker :: text ∧ isHeader (marker :: text) = false ∧
      markerClass? marker = some cls := by
  cases line with
  | nil => cases h
  | cons marker rest =>
    rw [content?] at h
    split at h
    · cases h
    · rename_i hheader
      rw [lookup_markers] at h
      obtain ⟨found, hfound, heq⟩ := Option.map_eq_some_iff.1 h
      obtain ⟨rfl, rfl⟩ := Prod.mk.inj heq
      exact ⟨marker, rfl, by simpa using hheader, hfound⟩

/-- A marker and a text that make no header make a content line. -/
theorem content?_cons {marker : Char} {text : Line} {cls : TokenClass}
    (hheader : isHeader (marker :: text) = false) (hmarker : markerClass? marker = some cls) :
    content? (marker :: text) = some (cls, text) := by
  rw [content?, hheader, lookup_markers, hmarker]
  rfl

/-- Headers have no content, also those that begin with a marker. -/
theorem content?_of_header {line : Line} (h : isHeader line = true) : content? line = none := by
  cases line with
  | nil => rfl
  | cons first text => exact if_pos h

theorem content?_of_no_marker {first : Char} {text : Line} (h : ∀ cls, (first, cls) ∉ markers) :
    content? (first :: text) = none := by
  rw [content?, lookup_markers]
  split
  · rfl
  · cases hmarker : markerClass? first with
    | none => rfl
    | some cls => exact absurd (mem_markers_iff.2 hmarker) (h cls)

theorem byteLength_marker {marker : Char} {cls : TokenClass} (h : markerClass? marker = some cls) :
    byteLength [marker] = 1 := by
  unfold markerClass? at h
  split at h
  · rfl
  · rfl
  · rfl
  · cases h

/-! ## One call -/

variable (inner : Mode) (base : Cursor) (hidden : List Char)

/-- The state of a diff whose content is in the given state. -/
def stateOver (nested : State) : State := .record (.ofList [("inner", .state nested)])

/-- At the start of a line only the text of the line counts. -/
theorem readToken_atStart (nested : State) (line : Line) :
    readToken inner (stateOver nested) (base.placed hidden [] [] line) =
      readLineStart (base.placed hidden [] [] line) >>= fun found ↦
        .ok ((some found.1, stateOver nested), found.2) := by
  rw [stateOver, readToken, bind_apply, get_apply, ok_bind, atStart_placed]
  rfl

/-- At the start of a content line the marker alone is taken. -/
theorem readLineStart_content {marker : Char} {text : Line} {cls : TokenClass}
    (hheader : isHeader (marker :: text) = false) (hmarker : markerClass? marker = some cls) :
    readLineStart (base.placed hidden [] [] (marker :: text)) =
      .ok (cls, base.placed hidden [] [marker] text) := by
  have hnone : ¬ headerStarts.any (·.isPrefixOf (marker :: text)) = true := by
    rw [← isHeader_eq, hheader]
    exact Bool.false_ne_true
  rw [readLineStart, bind_apply, rest_placed, ok_bind, if_neg hnone, bind_apply, Scan.next,
    eat_placed_cons, if_pos rfl, ok_bind, Option.bind_some, hmarker]
  rfl

/-- At the start of any other line all of it is taken. -/
theorem readLineStart_whole {line : Line} (hline : line ≠ []) (hcontent : content? line = none) :
    readLineStart (base.placed hidden [] [] line) =
      .ok (wholeLineClass line, base.placed hidden [] line []) := by
  cases line with
  | nil => exact absurd rfl hline
  | cons marker text =>
    rw [readLineStart, bind_apply, rest_placed, ok_bind, ← isHeader_eq]
    rw [content?] at hcontent
    cases hheader : isHeader (marker :: text) with
    | true =>
      rw [if_pos rfl, bind_apply, skipToEnd_placed, ok_bind, wholeLineClass, hheader]
      rfl
    | false =>
      rw [hheader, if_neg Bool.false_ne_true, Option.map_eq_none_iff, lookup_markers] at hcontent
      rw [if_neg Bool.false_ne_true, bind_apply, Scan.next, eat_placed_cons, if_pos rfl, ok_bind,
        Option.bind_some, hcontent]
      dsimp only
      rw [bind_apply, skipToEnd_placed, ok_bind, wholeLineClass, hheader]
      rfl

/-- After the marker, a call reads what the mode of the content reads where the marker is not
there. -/
theorem readToken_inside {nested after : State} {cls : Option TokenClass}
    {passed text ahead : List Char} (marker : Char)
    (hcall : ∀ base hidden,
      inner.readToken nested (Cursor.placed base hidden passed [] (text ++ ahead)) =
        .ok ((cls, after), Cursor.placed base hidden passed text ahead)) :
    readToken inner (stateOver nested) (base.placed hidden (marker :: passed) [] (text ++ ahead)) =
      .ok ((cls, stateOver after), base.placed hidden (marker :: passed) text ahead) := by
  have hhidden := withHidden_placed base hidden passed [] (text ++ ahead)
    (hcall base (hidden ++ [marker]))
  rw [stateOver, readToken, bind_apply, get_apply, ok_bind, atStart_placed]
  change (withHidden 1 (inner.readToken nested) >>= _) _ = _
  rw [bind_apply, hhidden, ok_bind]
  rfl

/-! ## Whole lines -/

variable {inner} {nested last : State} {pieces : List Piece} {text : List Char}

/-- After the marker, the rest of a line is read as the mode of the content reads it alone. -/
theorem readsAs_inside (marker : Char) {passed : List Char}
    (h : ReadsAs inner.readToken passed nested text pieces last) :
    ReadsAs (mode inner).readToken (marker :: passed) (stateOver nested) text pieces
      (stateOver last) := by
  induction h with
  | nil => exact .nil
  | cons htext hcall _ ih =>
    exact .cons htext (fun base hidden ↦ readToken_inside inner base hidden marker hcall) ih

/-- Behind its marker a content line is read like the text alone. -/
theorem readsAs_content {marker : Char} {cls : TokenClass}
    (hheader : isHeader (marker :: text) = false) (hmarker : markerClass? marker = some cls)
    (h : ReadsAs inner.readToken [] nested text pieces last) :
    ReadsAs (mode inner).readToken [] (stateOver nested) (marker :: text)
      (⟨[marker], some cls⟩ :: pieces) (stateOver last) := by
  have hcall (base : Cursor) (hidden : List Char) :
      readToken inner (stateOver nested) (base.placed hidden [] [] ([marker] ++ text)) =
        .ok ((some cls, stateOver nested), base.placed hidden [] [marker] text) := by
    rw [List.singleton_append, readToken_atStart, readLineStart_content base hidden hheader hmarker,
      ok_bind]
  exact .cons (List.cons_ne_nil marker []) hcall (readsAs_inside marker h)

theorem readsAs_whole {line : Line} (hline : line ≠ []) (hcontent : content? line = none)
    (nested : State) :
    ReadsAs (mode inner).readToken [] (stateOver nested) line [⟨line, some (wholeLineClass line)⟩]
      (stateOver nested) := by
  have hcall (base : Cursor) (hidden : List Char) :
      readToken inner (stateOver nested) (base.placed hidden [] [] (line ++ [])) =
        .ok ((some (wholeLineClass line), stateOver nested), base.placed hidden [] line []) := by
    rw [List.append_nil, readToken_atStart, readLineStart_whole base hidden hline hcontent, ok_bind]
  have hreads := ReadsAs.cons hline hcall .nil
  rw [List.append_nil] at hreads
  exact hreads

/-! ## Steadiness -/

def Fits (InnerFits : State → Prop) (state : State) : Prop :=
  ∃ nested, state = stateOver nested ∧ InnerFits nested

variable {InnerFits : State → Prop}

/-- Over a steady mode of the content a call takes something. -/
theorem takes_readToken (hinner : inner.Steady InnerFits) (hnested : InnerFits nested) :
    Takes (readToken inner (stateOver nested)) fun answer ↦ Fits InnerFits answer.2 := by
  intro passed ahead hahead
  cases passed with
  | nil =>
    have hfits : Fits InnerFits (stateOver nested) := ⟨nested, rfl, hnested⟩
    cases hcontent : content? ahead with
    | none =>
      refine ⟨(some (wholeLineClass ahead), stateOver nested), ahead, [], by simp, ⟨hahead, hfits⟩,
        fun base hidden ↦ ?_⟩
      rw [readToken_atStart, readLineStart_whole base hidden hahead hcontent, ok_bind]
    | some found =>
      obtain ⟨marker, rfl, hheader, hmarker⟩ := content?_eq_some hcontent
      refine ⟨(some found.1, stateOver nested), [marker], found.2, rfl,
        ⟨List.cons_ne_nil marker [], hfits⟩, fun base hidden ↦ ?_⟩
      rw [readToken_atStart, readLineStart_content base hidden hheader hmarker, ok_bind]
  | cons marker passed =>
    obtain ⟨⟨cls, after⟩, token, ahead', hline, ⟨htoken, hafter⟩, hcall⟩ :=
      hinner.readToken nested hnested passed ahead hahead
    rw [List.nil_append] at hline
    subst hline
    exact ⟨_, token, ahead', rfl, ⟨htoken, after, rfl, hafter⟩, fun base hidden ↦
      readToken_inside inner base hidden marker hcall⟩

theorem skipBlankLine_stateOver (nested : State) :
    (mode inner).skipBlankLine (stateOver nested) = stateOver (inner.skipBlankLine nested) := rfl

/-- Over a steady mode diffs are steady. -/
theorem steady_mode (hinner : inner.Steady InnerFits) :
    (mode inner).Steady (Fits InnerFits) where
  start baseIndent := ⟨_, rfl, hinner.start baseIndent⟩
  copy := by
    rintro _ ⟨nested, rfl, _⟩
    rfl
  skipBlankLine := by
    rintro _ ⟨nested, rfl, hnested⟩
    rw [skipBlankLine_stateOver, hinner.skipBlankLine nested hnested]
  readToken := by
    rintro _ ⟨nested, rfl, hnested⟩
    exact takes_readToken hinner hnested

/-- What the mode of the content keeps, the mode of diffs keeps around it. -/
theorem keeps_mode (hinner : inner.Keeps InnerFits) : (mode inner).Keeps (Fits InnerFits) where
  copy := by
    rintro _ ⟨nested, rfl, hnested⟩
    exact ⟨nested, rfl, hnested⟩
  skipBlankLine := by
    rintro _ ⟨nested, rfl, hnested⟩
    exact ⟨_, rfl, hinner.skipBlankLine nested hnested⟩
  readToken := by
    rintro _ ⟨nested, rfl, hnested⟩
    refine .andThen _ fun cursor ↦ .ite (fun _ ↦ ?_) fun _ ↦ ?_
    · exact .andThen _ fun cls ↦ .pure ⟨nested, rfl, hnested⟩
    · have hcall := Ensures.withHidden 1 (hinner.readToken nested hnested)
      exact hcall.bind fun (cls, after) hafter ↦ .pure ⟨after, rfl, hafter⟩

end LineLexer.PatchGrammar
