import LineLexer.Proofs.Highlight.Incremental
import LineLexer.Proofs.Registry.Progress

/-!
# One state for all lines

The lines of a document can be highlighted one by one from copies of cached states, or be read with
one state that is passed from line to line. No bundled mode tells the two apart: to copy a state
that such a mode comes to gives the state itself, so both ways lead to the same spans and the same
states.
-/

namespace LineLexer

open Outcome

/-! ## Spans, token by token -/

/-- The spans up to and with one more token. A token without a class leaves the spans before it as
they are, and a token that goes on where the last span ends, with the same class, lengthens it. -/
def addToken (spans : List Span) (token : Token) : List Span :=
  match token.cls, spans.getLast? with
  | none, _ => spans
  | some cls, none => [Span.ofClass token.start token.stop (some cls)]
  | some cls, some span =>
    if span.stop = token.start ∧ span.cls = some cls then
      spans.dropLast ++ [{ span with stop := token.stop }]
    else
      spans ++ [Span.ofClass token.start token.stop (some cls)]

/-- A span in front of others; it becomes one with the first of them where they are neighbours of
one class. -/
def joinSpan (span : Span) : List Span → List Span
  | [] => [span]
  | other :: spans =>
    if span.stop = other.start ∧ other.cls = span.cls then { other with start := span.start } :: spans
    else span :: other :: spans

theorem mergeTokens_cons_none {token : Token} (h : token.cls = none) (tokens : List Token) :
    mergeTokens (token :: tokens) = mergeTokens tokens := by
  rw [mergeTokens, h]

/-- A token with a class is joined to the spans after it, if they begin where it ends in the same
class. -/
theorem mergeTokens_cons_some {token : Token} {cls : TokenClass} (h : token.cls = some cls)
    (tokens : List Token) :
    mergeTokens (token :: tokens) =
      joinSpan (Span.ofClass token.start token.stop (some cls)) (mergeTokens tokens) := by
  rw [mergeTokens, h]
  cases mergeTokens tokens <;> rfl

theorem exists_joinSpan (span : Span) (spans : List Span) :
    ∃ head tail, joinSpan span spans = head :: tail ∧ head.start = span.start ∧
      head.cls = span.cls := by
  cases spans with
  | nil => exact ⟨span, [], rfl, rfl, rfl⟩
  | cons other spans =>
    rw [joinSpan]
    split
    · rename_i hjoin
      exact ⟨_, spans, rfl, rfl, hjoin.2⟩
    · exact ⟨span, _, rfl, rfl, rfl⟩

/-- Three neighbours of one class are joined from either side. -/
theorem joinSpan_joinSpan (first middle last : Nat) (cls : Option TokenClass) (spans : List Span) :
    joinSpan (Span.ofClass first middle cls) (joinSpan (Span.ofClass middle last cls) spans) =
      joinSpan (Span.ofClass first last cls) spans := by
  cases spans with
  | nil => simp [joinSpan, Span.ofClass]
  | cons other spans =>
    by_cases hjoin : last = other.start ∧ other.cls = cls
    · simp [joinSpan, Span.ofClass, hjoin]
    · simp [joinSpan, Span.ofClass, hjoin]

/-- Tokens added after a span of some class. -/
theorem foldl_addToken_append (tokens : List Token) (spans : List Span) (start stop : Nat)
    (cls : TokenClass) :
    tokens.foldl addToken (spans ++ [Span.ofClass start stop (some cls)]) =
      spans ++ joinSpan (Span.ofClass start stop (some cls)) (mergeTokens tokens) := by
  induction tokens generalizing spans start stop cls with
  | nil => rfl
  | cons token tokens ih =>
    rw [List.foldl_cons]
    cases hcls : token.cls with
    | none =>
      have hadd : addToken (spans ++ [Span.ofClass start stop (some cls)]) token =
          spans ++ [Span.ofClass start stop (some cls)] := by
        rw [addToken, hcls]
      rw [hadd, ih, mergeTokens_cons_none hcls]
    | some other =>
      rw [mergeTokens_cons_some hcls]
      by_cases hjoin : stop = token.start ∧ cls = other
      · obtain ⟨rfl, rfl⟩ := hjoin
        have hadd : addToken (spans ++ [Span.ofClass start token.start (some cls)]) token =
            spans ++ [Span.ofClass start token.stop (some cls)] := by
          simp [addToken, hcls, Span.ofClass]
        rw [hadd, ih, joinSpan_joinSpan]
      · have hadd : addToken (spans ++ [Span.ofClass start stop (some cls)]) token =
            (spans ++ [Span.ofClass start stop (some cls)]) ++
              [Span.ofClass token.start token.stop (some other)] := by
          simp [addToken, hcls, Span.ofClass, hjoin]
        obtain ⟨head, tail, hspans, hstart, hhead⟩ :=
          exists_joinSpan (Span.ofClass token.start token.stop (some other)) (mergeTokens tokens)
        have hapart : ¬ ((Span.ofClass start stop (some cls)).stop = head.start ∧
            head.cls = (Span.ofClass start stop (some cls)).cls) := by
          rw [hstart, hhead]
          rintro ⟨hstop, hsame⟩
          exact hjoin ⟨hstop, (Option.some.inj hsame).symm⟩
        rw [hadd, ih, hspans, joinSpan, if_neg hapart, List.append_assoc, List.singleton_append]

/-- To merge tokens is to add them one after the other. -/
theorem mergeTokens_eq_foldl (tokens : List Token) : mergeTokens tokens = tokens.foldl addToken [] := by
  induction tokens with
  | nil => rfl
  | cons token tokens ih =>
    cases hcls : token.cls with
    | none =>
      have hadd : addToken [] token = [] := by rw [addToken, hcls]
      rw [mergeTokens_cons_none hcls, ih, List.foldl_cons, hadd]
    | some cls =>
      have hadd : addToken [] token = [] ++ [Span.ofClass token.start token.stop (some cls)] := by
        rw [addToken, hcls]
        rfl
      rw [mergeTokens_cons_some hcls, List.foldl_cons, hadd, foldl_addToken_append, List.nil_append]

/-! ## Lines from copies -/

namespace HighlightCache

variable {mode : Mode} {tabSize : Nat}

def cachedLine (run : List Token × State) : CachedLine := ⟨mergeTokens run.1, run.2⟩

/-- A fresh cache comes to hold all lines of a document. -/
theorem highlightDocument_ofMode {document : List Line} {lines : List CachedLine}
    (h : highlightAfter mode tabSize none document = .ok lines) :
    (ofMode mode tabSize).highlightDocument document =
      .ok (lines.map CachedLine.spans, { mode, tabSize, lines, validLines := document.length }) := by
  have hlength := length_of_highlightAfter h
  have hensure : (ofMode mode tabSize).ensureLines document document.length =
      .ok { mode, tabSize, lines, validLines := document.length } := by
    cases document with
    | nil =>
      obtain rfl : lines = [] := List.length_eq_zero_iff.1 hlength
      rfl
    | cons line document =>
      have hmissing : min (ofMode mode tabSize).validLines (line :: document).length <
          min (line :: document).length (line :: document).length := by
        simp [ofMode]
      rw [ensureLines_of_lt (holds_ofMode mode tabSize _) hmissing, List.take_length, Nat.min_self]
      change (highlightAfter mode tabSize none _).map _ = _
      rw [h]
      rfl
  rw [highlightDocument, hensure, ok_bind]
  dsimp only
  rw [List.take_of_length_le (Nat.le_of_eq hlength)]
  rfl

/-- Before the first line stands the start state, which is its own copy. -/
theorem highlightAfter_none (hcopy : mode.copy (mode.start 0) = mode.start 0) (lines : List Line) :
    highlightAfter mode tabSize none lines =
      highlightAfter mode tabSize (some (mode.start 0)) lines := by
  cases lines with
  | nil => rfl
  | cons line lines => simp only [highlightAfter, hcopy]

end HighlightCache

open HighlightCache

/-- A steady mode reads lines from copies of its states as it reads them with one state. -/
theorem Mode.Steady.exists_runs {mode : Mode} {Fits : State → Prop} (h : mode.Steady Fits)
    {state : State} (hstate : Fits state) (tabSize : Nat) (lines : List Line) :
    ∃ runs, tokenizeLines mode tabSize state lines = .ok runs ∧
      highlightAfter mode tabSize (some state) lines = .ok (runs.map cachedLine) := by
  induction lines generalizing state with
  | nil => exact ⟨[], rfl, rfl⟩
  | cons line lines ih =>
    obtain ⟨tokens, after, hline, hafter⟩ := h.exists_tokens hstate line tabSize
    obtain ⟨runs, hruns, hlines⟩ := ih hafter
    refine ⟨(tokens, after) :: runs, tokenizeLines_cons hline hruns, ?_⟩
    simp only [highlightAfter, h.copy state hstate, highlightLine, hline, ok_bind, pure_eq_ok, hlines]
    rfl

/-- A bundled mode comes only to states that are their own copies. Highlighting a document through a
fresh cache gives the spans that the tokens of its lines add up to when they are read with one
state, and the cache keeps the states that this one goes through. -/
theorem highlightDocument_eq_threaded (registry : Registry) (hregistry : registry.HasBundled)
    (options : ModeOptions) (spec : Spec) (tabSize : Nat) (document : List Line) :
    let mode := registry.getMode options spec
    (∀ state, Reachable mode state → mode.copy state = state) ∧
    ∃ runs spans cache,
      tokenizeLines mode tabSize (mode.start 0) document = .ok runs ∧
      (ofMode mode tabSize).highlightDocument document = .ok (spans, cache) ∧
      spans = runs.map (fun run ↦ run.1.foldl addToken []) ∧
      ∀ line, cache.stateAfter? line = runs[line]?.map Prod.snd := by
  intro mode
  obtain ⟨Fits, hsteady⟩ := (Registry.bundled_getMode hregistry options spec).exists_steady
  refine ⟨fun state hstate ↦ hsteady.copy state (hsteady.fits hstate), ?_⟩
  obtain ⟨runs, hruns, hlines⟩ := hsteady.exists_runs (hsteady.start 0) tabSize document
  rw [← highlightAfter_none (hsteady.copy _ (hsteady.start 0))] at hlines
  have hlength : runs.length = document.length := by
    rw [← length_of_highlightAfter hlines, List.length_map]
  refine ⟨runs, _, _, hruns, highlightDocument_ofMode hlines, ?_, fun line ↦ ?_⟩
  · rw [List.map_map]
    exact List.map_congr_left fun run _ ↦ mergeTokens_eq_foldl run.1
  · simp only [stateAfter?, ← hlength, List.getElem?_map, Option.map_map]
    split
    · rfl
    · rename_i hline
      rw [List.getElem?_eq_none (Nat.not_lt.1 hline)]
      rfl

/-- A script that is open from one line to the next, with an empty line inside it. -/
theorem highlightDocument_eq_threaded_script :
    Registry.bundled.HasBundled ∧
      ∃ runs spans cache,
        let mode := Registry.bundled.getMode {} (.name "text/html")
        tokenizeLines mode 4 (mode.start 0)
          ["<script>/* é".toList, [], "*/</script>".toList] = .ok runs ∧
        (ofMode mode 4).highlightDocument
          ["<script>/* é".toList, [], "*/</script>".toList] = .ok (spans, cache) ∧
        spans = runs.map (fun run ↦ run.1.foldl addToken []) ∧
        cache.stateAfter? 1 = runs[1]?.map Prod.snd := by
  obtain ⟨_, runs, spans, cache, hruns, hspans, heq, hstates⟩ :=
    highlightDocument_eq_threaded Registry.bundled Registry.hasBundled_bundled {}
      (.name "text/html") 4 ["<script>/* é".toList, [], "*/</script>".toList]
  exact ⟨Registry.hasBundled_bundled, runs, spans, cache, hruns, hspans, heq, hstates 1⟩

end LineLexer
