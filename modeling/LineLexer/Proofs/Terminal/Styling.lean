import LineLexer.Proofs.Terminal.Painting

/-!
# Every character in the style of its span

A painted line is shown on a screen in the plain style. Painting switches on only those parts of a
style that differ from the plain one, so a span looks right only where the screen is plain when the
span begins: every span leaves it so, and the gaps and the end of the line rely on that.
-/

namespace LineLexer

/-! ## Commands on a screen -/

namespace Screen

theorem run_append (screen : Screen) (first second : List Command) :
    screen.run (first ++ second) = (screen.run first).run second :=
  List.foldl_append

/-- A command that changes nothing may be left out. -/
theorem run_unless {p : Prop} [Decidable p] {screen : Screen} {command : Command}
    (h : p → screen.step command = screen) :
    screen.run (if p then [] else [command]) = screen.step command := by
  split
  · exact (h ‹p›).symm
  · rfl

/-- The commands of a style lead from the plain style to it. -/
theorem run_commands (printed : List (Char × Style)) (style : Style) :
    run ⟨printed, .plain⟩ style.commands = ⟨printed, style⟩ := by
  obtain ⟨foreground, background, bold, italic, underline⟩ := style
  have hforeground : run ⟨printed, .plain⟩
      (if foreground = .unset then [] else [.foreground foreground]) =
        ⟨printed, { foreground }⟩ := by
    apply run_unless
    rintro rfl
    rfl
  have hbackground : run ⟨printed, { foreground }⟩
      (if background = .unset then [] else [.background background]) =
        ⟨printed, { foreground, background }⟩ := by
    apply run_unless
    rintro rfl
    rfl
  rw [Style.commands, run_append, run_append, run_append, run_append, hforeground, hbackground]
  cases bold <;> cases italic <;> cases underline <;> rfl

/-- A text in a style of its own leaves the plain style behind it. -/
theorem run_styled (printed : List (Char × Style)) (style : Style) (text : List Char) :
    run ⟨printed, .plain⟩ (if style = .plain then [.print text]
      else style.commands ++ [.print text, .reset]) =
        ⟨printed ++ text.map (·, style), .plain⟩ := by
  split
  · rename_i hplain
    rw [hplain]
    rfl
  · rw [run_append, run_commands]
    rfl

end Screen

/-! ## The style of each character -/

/-- The style that a byte of the line is shown in: that of the first span that holds it. -/
def styleAt (spans : List Span) (offset : Nat) : Style :=
  ((spans.find? (·.contains offset)).map Span.style).getD .plain

/-- The characters of a text that begins at a byte offset, each in the style of its first byte. -/
def shownFrom (style : Nat → Style) : Nat → List Char → List (Char × Style)
  | _, [] => []
  | offset, c :: text => (c, style offset) :: shownFrom style (offset + c.utf8Size) text

/-- What two texts show together is what each shows at its place. -/
theorem shownFrom_append (style : Nat → Style) (offset : Nat) (first second : List Char) :
    shownFrom style offset (first ++ second) =
      shownFrom style offset first ++ shownFrom style (offset + byteLength first) second := by
  induction first generalizing offset with
  | nil => rfl
  | cons c first ih =>
    rw [List.cons_append, shownFrom, shownFrom, ih, byteLength_cons, Nat.add_assoc,
      List.cons_append]

/-- Only the styles within the text matter. -/
theorem shownFrom_congr {style other : Nat → Style} {offset : Nat} {text : List Char}
    (h : ∀ place, offset ≤ place → place < offset + byteLength text → style place = other place) :
    shownFrom style offset text = shownFrom other offset text := by
  induction text generalizing offset with
  | nil => rfl
  | cons c text ih =>
    have hpos := c.utf8Size_pos
    rw [byteLength_cons] at h
    rw [shownFrom, shownFrom, h offset (Nat.le_refl _) (by omega)]
    rw [ih fun place hfirst hlast ↦ h place (by omega) (by omega)]

theorem shownFrom_const (style : Style) (offset : Nat) (text : List Char) :
    shownFrom (fun _ ↦ style) offset text = text.map (·, style) := by
  induction text generalizing offset with
  | nil => rfl
  | cons c text ih => rw [shownFrom, ih, List.map_cons]

theorem styleAt_cons (span : Span) (spans : List Span) (offset : Nat) :
    styleAt (span :: spans) offset =
      if span.start ≤ offset ∧ offset < span.stop then span.style else styleAt spans offset := by
  rw [styleAt, List.find?_cons]
  cases hcontains : span.contains offset with
  | true =>
    rw [if_pos (Span.contains_iff.1 hcontains)]
    rfl
  | false =>
    rw [if_neg (mt Span.contains_iff.2 (by simp [hcontains]))]
    rfl

/-- Where no span is, the style is plain. -/
theorem styleAt_eq_plain {spans : List Span} {offset : Nat}
    (h : ∀ span ∈ spans, span.contains offset = false) : styleAt spans offset = .plain := by
  rw [styleAt, List.find?_eq_none.2 fun span hspan ↦ by simp [h span hspan]]
  rfl

theorem shownFrom_map_fst (style : Nat → Style) (offset : Nat) (text : List Char) :
    (shownFrom style offset text).map Prod.fst = text := by
  induction text generalizing offset with
  | nil => rfl
  | cons c text ih => rw [shownFrom, List.map_cons, ih]

theorem shownFrom_length (style : Nat → Style) (offset : Nat) (text : List Char) :
    (shownFrom style offset text).length = text.length := by
  rw [← List.length_map (f := Prod.fst), shownFrom_map_fst]

/-- The character at a place is shown in the style of that place. -/
theorem shownFrom_getElem? (style : Nat → Style) (before after : List Char) (c : Char) :
    (shownFrom style 0 (before ++ c :: after))[before.length]? =
      some (c, style (byteLength before)) := by
  have hlength := shownFrom_length style 0 before
  rw [shownFrom_append, shownFrom, List.getElem?_append_right (Nat.le_of_eq hlength), hlength,
    Nat.sub_self, Nat.zero_add]
  rfl

namespace InOrder

variable {line : Line} {offset place : Nat} {span : Span} {spans : List Span}

/-- Before the first span the style is plain. -/
theorem styleAt_of_lt (h : InOrder line offset spans) (hplace : place < offset) :
    styleAt spans place = .plain := by
  apply styleAt_eq_plain
  intro span hspan
  have hstart := h.le_start span hspan
  rw [← Bool.not_eq_true, Span.contains_iff]
  omega

/-- No two spans hold the same byte, so every span shows its own style. -/
theorem styleAt_of_contains (h : InOrder line offset spans) (hspan : span ∈ spans)
    (hcontains : span.contains place = true) : styleAt spans place = span.style := by
  rw [Span.contains_iff] at hcontains
  induction spans generalizing offset with
  | nil => cases hspan
  | cons first spans ih =>
    obtain ⟨_, _, _, _, hspans⟩ := h
    rw [styleAt_cons]
    cases hspan with
    | head => rw [if_pos hcontains]
    | tail _ hspan =>
      have hstart := hspans.le_start span hspan
      rw [if_neg (by omega), ih hspans hspan]

/-- The gap before a span is shown plain, the span in its style, and what follows it as if the span
were not there. -/
theorem shownFrom_parts {before gap text rest : List Char}
    (hstart : span.start = byteLength (before ++ gap))
    (hstop : span.stop = byteLength (before ++ gap ++ text))
    (h : InOrder line (byteLength (before ++ gap ++ text)) spans) :
    shownFrom (styleAt (span :: spans)) (byteLength before) (gap ++ (text ++ rest)) =
      gap.map (·, .plain) ++ text.map (·, span.style) ++
        shownFrom (styleAt spans) (byteLength (before ++ gap ++ text)) rest := by
  rw [byteLength_append] at hstart
  rw [byteLength_append, byteLength_append] at hstop h
  have hgap : shownFrom (styleAt (span :: spans)) (byteLength before) gap =
      gap.map (·, .plain) := by
    rw [← shownFrom_const]
    apply shownFrom_congr
    intro place _ hlast
    rw [styleAt_cons, if_neg (by omega), h.styleAt_of_lt (by omega)]
  have htext : shownFrom (styleAt (span :: spans)) (byteLength before + byteLength gap) text =
      text.map (·, span.style) := by
    rw [← shownFrom_const]
    apply shownFrom_congr
    intro place hfirst hlast
    rw [styleAt_cons, if_pos (by omega)]
  have hrest : shownFrom (styleAt (span :: spans))
      (byteLength before + byteLength gap + byteLength text) rest =
        shownFrom (styleAt spans) (byteLength (before ++ gap ++ text)) rest := by
    rw [byteLength_append, byteLength_append]
    apply shownFrom_congr
    intro place hfirst _
    rw [styleAt_cons, if_neg (by omega)]
  rw [shownFrom_append, shownFrom_append, hgap, htext, hrest]
  exact (List.append_assoc _ _ _).symm

/-- Painting goes through, and shows the rest of the line in the styles of its spans. -/
theorem exists_shown {before after : List Char}
    (h : InOrder (before ++ after) (byteLength before) spans) :
    ∃ commands, paintFrom (before ++ after) (byteLength before) spans = .ok commands ∧
      ∀ printed, Screen.run ⟨printed, .plain⟩ commands =
        ⟨printed ++ shownFrom (styleAt spans) (byteLength before) after, .plain⟩ := by
  induction spans generalizing before after with
  | nil =>
    refine ⟨_, paintFrom_nil before after, fun printed ↦ ?_⟩
    have hplain : shownFrom (styleAt []) (byteLength before) after = after.map (·, .plain) :=
      shownFrom_const .plain (byteLength before) after
    rw [hplain]
    by_cases hafter : after = []
    · simp [hafter, Screen.run]
    · rw [if_neg hafter]
      rfl
  | cons span spans ih =>
    obtain ⟨gap, text, rest, rfl, hstart, hstop, hspans⟩ := h.exists_parts
    obtain ⟨others, hothers, hshown⟩ := ih hspans
    refine ⟨_, paintFrom_cons hstart hstop hothers, fun printed ↦ ?_⟩
    have hgap : Screen.run ⟨printed, .plain⟩ (if gap = [] then [] else [.print gap]) =
        ⟨printed ++ gap.map (·, .plain), .plain⟩ := by
      apply Screen.run_unless
      rintro rfl
      simp [Screen.step]
    calc
      _ = Screen.run ⟨printed ++ gap.map (·, .plain) ++ text.map (·, span.style), .plain⟩ others := by
        rw [Screen.run_append, Screen.run_append, hgap, Screen.run_styled]
      _ = _ := by
        rw [hshown, hspans.shownFrom_parts hstart hstop]
        simp only [List.append_assoc]

end InOrder

/-- Spans in order, in any styles, are painted so that every character of the line is shown once and
in its place: in the style of the span that holds it, or plain if none does. The line feed after it
is plain, and so is the screen that is left. -/
theorem painting_shows_styles (line : Line) (spans : List Span) (h : InOrder line 0 spans)
    (screen : Screen) (hscreen : screen.style = .plain) :
    ∃ commands shown, paintLine line spans = .ok commands ∧
      screen.run commands = ⟨screen.printed ++ shown ++ [('\n', .plain)], .plain⟩ ∧
      shown.map Prod.fst = line ∧
      ∀ before c after, line = before ++ c :: after →
        (∀ span ∈ spans, span.contains (byteLength before) = true →
          shown[before.length]? = some (c, span.style)) ∧
        ((∀ span ∈ spans, span.contains (byteLength before) = false) →
          shown[before.length]? = some (c, .plain)) := by
  obtain ⟨printed, style⟩ := screen
  obtain rfl : style = .plain := hscreen
  obtain ⟨commands, hcommands, hshown⟩ :=
    InOrder.exists_shown (show InOrder ([] ++ line) (byteLength []) spans from h)
  refine ⟨commands ++ [.print ['\n']], shownFrom (styleAt spans) 0 line, ?_, ?_,
    shownFrom_map_fst _ _ _, ?_⟩
  · rw [List.nil_append, byteLength_nil] at hcommands
    rw [paintLine, hcommands]
    rfl
  · rw [Screen.run_append, hshown]
    rfl
  · rintro before c after rfl
    rw [shownFrom_getElem?]
    exact ⟨fun span hspan hcontains ↦ by rw [h.styleAt_of_contains hspan hcontains],
      fun hnone ↦ by rw [styleAt_eq_plain hnone]⟩

/-- Four spans side by side on a line with wide characters, the second empty and the third plain. -/
def Sample.adjacentSpans : List Span :=
  [⟨0, 2, none, { foreground := .red, bold := true }⟩, ⟨2, 2, none, { underline := true }⟩,
    ⟨2, 3, none, .plain⟩, ⟨3, 6, none, { background := .blue, italic := true }⟩]

/-- The last character is in no span, and the empty span shows none. -/
theorem painting_shows_styles_adjacent :
    InOrder ['é', '=', '→', 'b'] 0 Sample.adjacentSpans ∧ Screen.style {} = .plain ∧
      ∃ commands shown,
        paintLine ['é', '=', '→', 'b'] Sample.adjacentSpans = .ok commands ∧
        Screen.run {} commands = ⟨shown ++ [('\n', .plain)], .plain⟩ ∧
        shown[0]? = some ('é', { foreground := .red, bold := true }) ∧
        shown[1]? = some ('=', .plain) ∧
        shown[2]? = some ('→', { background := .blue, italic := true }) ∧
        shown[3]? = some ('b', .plain) := by
  have hsecond : IsBoundary ['é', '=', '→', 'b'] 2 := ⟨['é'], _, rfl, rfl⟩
  have hthird : IsBoundary ['é', '=', '→', 'b'] 3 := ⟨['é', '='], _, rfl, rfl⟩
  have hfourth : IsBoundary ['é', '=', '→', 'b'] 6 := ⟨['é', '=', '→'], _, rfl, rfl⟩
  have horder : InOrder ['é', '=', '→', 'b'] 0 Sample.adjacentSpans :=
    ⟨by decide, by decide, isBoundary_zero _, hsecond, by decide, by decide, hsecond, hsecond,
      by decide, by decide, hsecond, hthird, by decide, by decide, hthird, hfourth, trivial⟩
  obtain ⟨commands, shown, hcommands, hscreen, _, hshown⟩ :=
    painting_shows_styles ['é', '=', '→', 'b'] Sample.adjacentSpans horder {} rfl
  have hfirst := (hshown [] 'é' _ rfl).1 _ (.head _) rfl
  have hplain := (hshown ['é'] '=' _ rfl).1 _ (.tail _ (.tail _ (.head _))) rfl
  have hlast := (hshown ['é', '='] '→' _ rfl).1 _ (.tail _ (.tail _ (.tail _ (.head _)))) rfl
  have hbehind := (hshown ['é', '=', '→'] 'b' _ rfl).2 (by decide)
  exact ⟨horder, rfl, commands, shown, hcommands, hscreen, hfirst, hplain, hlast, hbehind⟩

end LineLexer
