import LineLexer.Proofs.Highlight.Partition
import LineLexer.Proofs.Highlight.Threaded
import LineLexer.Terminal.Command

/-!
# What a painted line prints

Spans in order between boundaries of a line are painted without a bad slice, and the texts printed
on the way, between the spans and inside them, are the line. The spans that tokens side by side are
merged into are of this kind.
-/

namespace LineLexer

open Outcome

/-! ## Printed text -/

/-- The text that a command prints; only one kind of command prints any. -/
def Command.printed : Command → List Char
  | .print text => text
  | _ => []

def printedText (commands : List Command) : List Char := commands.flatMap Command.printed

@[simp] theorem printedText_nil : printedText [] = [] := rfl

@[simp] theorem printedText_cons (command : Command) (commands : List Command) :
    printedText (command :: commands) = command.printed ++ printedText commands := rfl

@[simp] theorem printedText_append (first second : List Command) :
    printedText (first ++ second) = printedText first ++ printedText second := by
  simp [printedText]

/-- The commands that set a style print nothing. -/
theorem printed_of_mem_commands {style : Style} {command : Command} (h : command ∈ style.commands) :
    command.printed = [] := by
  simp only [Style.commands, List.mem_append] at h
  rcases h with (((h | h) | h) | h) | h <;> split at h <;> simp_all [Command.printed]

@[simp] theorem printedText_commands (style : Style) : printedText style.commands = [] :=
  List.flatMap_eq_nil_iff.2 fun _ h ↦ printed_of_mem_commands h

/-- A span is painted with its style switched on before it and off after it, or as it is. -/
theorem printedText_styled (style : Style) (text : List Char) :
    printedText (if style = .plain then [Command.print text]
      else style.commands ++ [.print text, .reset]) = text := by
  split <;> simp [Command.printed]

/-! ## Painting step by step -/

/-- A span is painted after the gap before it, and then the spans after it. -/
theorem paintFrom_cons {before gap text rest : List Char} {span : Span} {spans : List Span}
    {others : List Command} (hstart : span.start = byteLength (before ++ gap))
    (hstop : span.stop = byteLength (before ++ gap ++ text))
    (hothers : paintFrom (before ++ gap ++ text ++ rest) (byteLength (before ++ gap ++ text)) spans =
      .ok others) :
    paintFrom (before ++ (gap ++ (text ++ rest))) (byteLength before) (span :: spans) =
      .ok ((if gap = [] then [] else [.print gap]) ++
        (if span.style = .plain then [.print text]
          else span.style.commands ++ [.print text, .reset]) ++ others) := by
  have hgap := slice_append before gap (text ++ rest)
  have htext := slice_append (before ++ gap) text rest
  rw [← byteLength_append] at hgap htext
  rw [List.append_assoc] at htext
  have hline : before ++ gap ++ text ++ rest = before ++ (gap ++ (text ++ rest)) := by simp
  have hempty : byteLength before < byteLength (before ++ gap) ↔ gap ≠ [] := by
    rw [byteLength_append, Nat.lt_add_right_iff_pos, byteLength_pos_iff]
  rw [hline] at hothers
  rw [paintFrom, hstart, hstop, hgap, htext, hothers]
  by_cases hnil : gap = []
  · rw [if_neg (mt hempty.1 (not_not_intro hnil)), if_pos hnil]
    rfl
  · rw [if_pos (hempty.2 hnil), if_neg hnil]
    rfl

theorem paintFrom_nil (before after : List Char) :
    paintFrom (before ++ after) (byteLength before) [] =
      .ok (if after = [] then [] else [.print after]) := by
  have hbehind : byteLength before < byteLength (before ++ after) ↔ after ≠ [] := by
    rw [byteLength_append, Nat.lt_add_right_iff_pos, byteLength_pos_iff]
  rw [paintFrom, sliceFrom_append, ok_bind]
  by_cases hafter : after = []
  · rw [if_neg (mt hbehind.1 (not_not_intro hafter)), if_pos hafter]
  · rw [if_pos (hbehind.2 hafter), if_neg hafter]
    rfl

/-! ## Spans in order -/

theorem Span.contains_iff {span : Span} {offset : Nat} :
    span.contains offset = true ↔ span.start ≤ offset ∧ offset < span.stop := by
  simp [Span.contains]

/-- Spans one after the other from an offset on, each between boundaries of the line. -/
def InOrder (line : Line) : Nat → List Span → Prop
  | _, [] => True
  | offset, span :: spans =>
    offset ≤ span.start ∧ span.start ≤ span.stop ∧ IsBoundary line span.start ∧
      IsBoundary line span.stop ∧ InOrder line span.stop spans

namespace InOrder

variable {line : Line} {offset : Nat} {spans : List Span}

theorem of_le {other : Nat} (h : InOrder line offset spans) (hle : other ≤ offset) :
    InOrder line other spans := by
  cases spans with
  | nil => trivial
  | cons span spans => exact ⟨Nat.le_trans hle h.1, h.2⟩

theorem le_start (h : InOrder line offset spans) : ∀ span ∈ spans, offset ≤ span.start := by
  induction spans generalizing offset with
  | nil => exact List.forall_mem_nil _
  | cons span spans ih =>
    obtain ⟨hoffset, hspan, _, _, hspans⟩ := h
    rw [List.forall_mem_cons]
    refine ⟨hoffset, fun other hother ↦ ?_⟩
    calc
      offset ≤ span.start := hoffset
      _ ≤ span.stop := hspan
      _ ≤ other.start := ih hspans other hother

theorem join {span : Span} (h : InOrder line span.stop spans) (hoffset : offset ≤ span.start)
    (hspan : span.start ≤ span.stop) (hstart : IsBoundary line span.start)
    (hstop : IsBoundary line span.stop) : InOrder line offset (joinSpan span spans) := by
  cases spans with
  | nil => exact ⟨hoffset, hspan, hstart, hstop, trivial⟩
  | cons other spans =>
    rw [joinSpan]
    split
    · obtain ⟨hbefore, hother, _, hlast, hspans⟩ := h
      have hlong : span.start ≤ other.stop := by omega
      exact ⟨hoffset, hlong, hstart, hlast, hspans⟩
    · exact ⟨hoffset, hspan, hstart, hstop, h⟩

/-- A span between boundaries cuts the text before it into what was painted and a gap, and the text
after it begins with what the span shows. -/
theorem exists_parts {before after : List Char} {span : Span}
    (h : InOrder (before ++ after) (byteLength before) (span :: spans)) :
    ∃ gap text rest, after = gap ++ (text ++ rest) ∧ span.start = byteLength (before ++ gap) ∧
      span.stop = byteLength (before ++ gap ++ text) ∧
      InOrder (before ++ gap ++ text ++ rest) (byteLength (before ++ gap ++ text)) spans := by
  obtain ⟨hoffset, hspan, hstart, hstop, hspans⟩ := h
  -- The line falls into what is painted, the gap before the span, the span and the rest.
  obtain ⟨_, gap, behind, hline, hbefore, hgap⟩ :=
    (isBoundary_append before after).exists_middle hstart hoffset
  obtain ⟨rfl, rfl⟩ := append_inj_of_byteLength hline hbefore.symm
  obtain ⟨_, text, rest, hbehind, hlength, htext⟩ := hstart.exists_middle hstop hspan
  rw [← List.append_assoc] at hbehind
  obtain ⟨rfl, rfl⟩ := append_inj_of_byteLength hbehind (by rw [byteLength_append, hgap, hlength])
  have hstart' : span.start = byteLength (before ++ gap) := by rw [byteLength_append, hgap]
  have hstop' : span.stop = byteLength (before ++ gap ++ text) := by rw [byteLength_append, htext]
  refine ⟨gap, text, rest, rfl, hstart', hstop', ?_⟩
  rw [← hstop']
  simpa using hspans

/-- Painting goes through, and prints the rest of the line. -/
theorem exists_painted {before after : List Char}
    (h : InOrder (before ++ after) (byteLength before) spans) :
    ∃ commands, paintFrom (before ++ after) (byteLength before) spans = .ok commands ∧
      printedText commands = after := by
  induction spans generalizing before after with
  | nil =>
    refine ⟨_, paintFrom_nil before after, ?_⟩
    split <;> simp_all [Command.printed]
  | cons span spans ih =>
    obtain ⟨gap, text, rest, rfl, hstart, hstop, hspans⟩ := h.exists_parts
    obtain ⟨others, hothers, hprinted⟩ := ih hspans
    refine ⟨_, paintFrom_cons hstart hstop hothers, ?_⟩
    have hgap : printedText (if gap = [] then [] else [.print gap]) = gap := by
      split <;> simp_all [Command.printed]
    rw [printedText_append, printedText_append, hgap, printedText_styled, hprinted,
      List.append_assoc]

end InOrder

/-- The spans of tokens side by side are in order. -/
theorem Tiles.inOrder {line : Line} {offset : Nat} {tokens : List Token}
    (h : Tiles line offset tokens) : InOrder line offset (mergeTokens tokens) := by
  induction tokens generalizing offset with
  | nil => trivial
  | cons token tokens ih =>
    obtain ⟨rfl, hlt, hstart, hstop, htiles⟩ := h
    have hspans := ih htiles
    cases hcls : token.cls with
    | none =>
      rw [mergeTokens_cons_none hcls]
      exact hspans.of_le (Nat.le_of_lt hlt)
    | some cls =>
      rw [mergeTokens_cons_some hcls]
      exact InOrder.join hspans (Nat.le_refl _) (Nat.le_of_lt hlt) hstart hstop

/-! ## Lines of a steady mode -/

/-- Pieces that are read one after the other lie side by side. -/
theorem ReadsAs.tiles {op : TokenOp} {passed rest : List Char} {state last : State}
    {pieces : List Piece} (h : ReadsAs op passed state rest pieces last) :
    Tiles (passed ++ rest) (byteLength passed) (tokensFrom (byteLength passed) pieces) := by
  induction h with
  | nil => simp [tokensFrom, Tiles]
  | @cons passed text ahead state after last cls pieces htext _ _ ih =>
    rw [List.append_assoc, byteLength_append] at ih
    have hlength := byteLength_pos_iff.2 htext
    have hstop : IsBoundary (passed ++ (text ++ ahead)) (byteLength passed + byteLength text) := by
      have hcut := isBoundary_append (passed ++ text) ahead
      rwa [List.append_assoc, byteLength_append] at hcut
    exact ⟨rfl, Nat.lt_add_of_pos_right hlength, isBoundary_append _ _, hstop, ih⟩

variable {mode : Mode} {Fits : State → Prop} {state : State}

/-- The tokens of a steady mode tile every line. -/
theorem Mode.Steady.exists_tiles (h : mode.Steady Fits) (hstate : Fits state) (line : Line)
    (tabSize : Nat) :
    ∃ tokens last, tokenizeLine mode line state tabSize = .ok (tokens, last) ∧ Fits last ∧
      Tiles line 0 tokens := by
  obtain ⟨tokens, last, htokens, hlast⟩ := h.exists_tokens hstate line tabSize
  refine ⟨tokens, last, htokens, hlast, ?_⟩
  by_cases hline : line = []
  · subst hline
    cases htokens
    rfl
  · obtain ⟨pieces, _, hreads, _⟩ := h.exists_readsAs hstate [] line
    cases htokens.symm.trans (hreads.tokenizeLine_eq hline tabSize)
    exact hreads.tiles

/-- A line that a steady mode has highlighted is painted as it is. -/
theorem Mode.Steady.exists_paintLine (h : mode.Steady Fits) (hstate : Fits state) (line : Line)
    (tabSize : Nat) :
    ∃ spans last commands, highlightLine mode line state tabSize = .ok (spans, last) ∧ Fits last ∧
      paintLine line spans = .ok commands ∧ printedText commands = line ++ ['\n'] := by
  obtain ⟨tokens, last, htokens, hlast, htiles⟩ := h.exists_tiles hstate line tabSize
  obtain ⟨commands, hcommands, hprinted⟩ :=
    InOrder.exists_painted (show InOrder ([] ++ line) (byteLength []) _ from htiles.inOrder)
  refine ⟨mergeTokens tokens, last, commands ++ [.print ['\n']], ?_, hlast, ?_, ?_⟩
  · rw [highlightLine, htokens]
    rfl
  · rw [List.nil_append, byteLength_nil] at hcommands
    rw [paintLine, hcommands]
    rfl
  · simp [hprinted, Command.printed]

/-- Lines that a steady mode has highlighted, each from a copy of the state before it, are painted as
they are. -/
theorem Mode.Steady.exists_paintLines (h : mode.Steady Fits) (hstate : Fits state) (tabSize : Nat)
    (lines : List Line) :
    ∃ cached painted,
      HighlightCache.highlightAfter mode tabSize (some state) lines = .ok cached ∧
      (lines.zip (cached.map CachedLine.spans)).mapM (fun (line, spans) ↦ paintLine line spans) =
        .ok painted ∧
      printedText painted.flatten = lines.flatMap (· ++ ['\n']) := by
  induction lines generalizing state with
  | nil => exact ⟨[], [], rfl, rfl, rfl⟩
  | cons line lines ih =>
    obtain ⟨spans, last, commands, hline, hlast, hcommands, hprinted⟩ :=
      h.exists_paintLine hstate line tabSize
    obtain ⟨cached, painted, hlines, hpainted, hothers⟩ := ih hlast
    refine ⟨⟨spans, last⟩ :: cached, commands :: painted, ?_, ?_, ?_⟩
    · simp only [HighlightCache.highlightAfter, h.copy state hstate, hline, ok_bind, hlines]
      rfl
    · rw [List.map_cons, List.zip_cons_cons, List.mapM_cons, hpainted]
      dsimp only
      rw [hcommands]
      rfl
    · simp [hprinted, hothers]

end LineLexer
