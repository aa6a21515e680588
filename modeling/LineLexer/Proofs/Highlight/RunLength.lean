import LineLexer.Proofs.Terminal.Painting
import Mathlib.Data.List.Chain

/-!
# The spans of a line in run-length form

Tokens side by side are shown by spans of bytes of one class. Of all lists of spans that show the
same bytes in the same classes, exactly one has no two spans that touch and share their class: the
spans of a highlighted line are that list, for every mode that does no more to its line than move
over it.
-/

namespace LineLexer

open Outcome

/-! ## Bytes and their classes -/

def Token.Covers (token : Token) (offset : Nat) : Prop :=
  token.start ≤ offset ∧ offset < token.stop

/-- A span of the class holds the byte at the offset. -/
def Shows (spans : List Span) (offset : Nat) (cls : TokenClass) : Prop :=
  ∃ span ∈ spans, span.contains offset = true ∧ span.cls = some cls

@[simp] theorem not_shows_nil (offset : Nat) (cls : TokenClass) : ¬ Shows [] offset cls := by
  simp [Shows]

/-- What spans show the first of them shows or the others do. -/
theorem shows_cons {span : Span} {spans : List Span} {offset : Nat} {cls : TokenClass} :
    Shows (span :: spans) offset cls ↔
      (span.start ≤ offset ∧ offset < span.stop) ∧ span.cls = some cls ∨
        Shows spans offset cls := by
  simp [Shows, Span.contains_iff]

theorem InOrder.isBoundary {line : Line} {offset : Nat} {spans : List Span}
    (h : InOrder line offset spans) :
    ∀ span ∈ spans, IsBoundary line span.start ∧ IsBoundary line span.stop := by
  induction spans generalizing offset with
  | nil => exact List.forall_mem_nil _
  | cons span spans ih =>
    obtain ⟨_, _, hstart, hstop, hspans⟩ := h
    exact List.forall_mem_cons.2 ⟨⟨hstart, hstop⟩, ih hspans⟩

/-- A span put in front of others shows its own bytes and theirs. -/
theorem shows_joinSpan {line : Line} {span : Span} {spans : List Span}
    (h : InOrder line span.stop spans) (hspan : span.start ≤ span.stop) {offset : Nat}
    {cls : TokenClass} :
    Shows (joinSpan span spans) offset cls ↔
      (span.start ≤ offset ∧ offset < span.stop) ∧ span.cls = some cls ∨
        Shows spans offset cls := by
  cases spans with
  | nil => simp [joinSpan, shows_cons]
  | cons other spans =>
    rw [joinSpan]
    split
    · rename_i hjoin
      obtain ⟨hstop, hcls⟩ := hjoin
      have hother : other.start ≤ other.stop := h.2.1
      have hbytes : span.start ≤ offset ∧ offset < other.stop ↔
          (span.start ≤ offset ∧ offset < span.stop) ∨
            (other.start ≤ offset ∧ offset < other.stop) := by
        omega
      rw [shows_cons, shows_cons, ← hcls]
      dsimp only
      rw [hbytes, or_and_right, or_assoc]
    · exact shows_cons

/-- The spans of tokens side by side show each byte in the class of its token. -/
theorem Tiles.shows_mergeTokens {line : Line} {start : Nat} {tokens : List Token}
    (h : Tiles line start tokens) {offset : Nat} {cls : TokenClass} :
    Shows (mergeTokens tokens) offset cls ↔
      ∃ token ∈ tokens, token.Covers offset ∧ token.cls = some cls := by
  induction tokens generalizing start with
  | nil => simp [mergeTokens]
  | cons token tokens ih =>
    obtain ⟨rfl, hlt, hstart, hstop, htiles⟩ := h
    rw [List.exists_mem_cons_iff, ← ih htiles]
    cases hcls : token.cls with
    | none => simp [mergeTokens_cons_none hcls]
    | some found =>
      rw [mergeTokens_cons_some hcls]
      exact shows_joinSpan htiles.inOrder (Nat.le_of_lt hlt)

theorem Tiles.le_start {line : Line} {start : Nat} {tokens : List Token}
    (h : Tiles line start tokens) : ∀ token ∈ tokens, start ≤ token.start := by
  induction tokens generalizing start with
  | nil => exact List.forall_mem_nil _
  | cons token tokens ih =>
    obtain ⟨rfl, hlt, _, _, htiles⟩ := h
    rw [List.forall_mem_cons]
    refine ⟨Nat.le_refl _, fun other hother ↦ ?_⟩
    calc
      token.start ≤ token.stop := Nat.le_of_lt hlt
      _ ≤ other.start := ih htiles other hother

/-- No byte belongs to two tokens. -/
theorem Tiles.eq_of_covers {line : Line} {start offset : Nat} {tokens : List Token}
    (h : Tiles line start tokens) {first second : Token} (hfirst : first ∈ tokens)
    (hsecond : second ∈ tokens) (hcovers : first.Covers offset) (hcovers' : second.Covers offset) :
    first = second := by
  induction tokens generalizing start with
  | nil => cases hfirst
  | cons token tokens ih =>
    obtain ⟨rfl, _, _, _, htiles⟩ := h
    have hlater : ∀ other ∈ tokens, token.Covers offset → ¬ other.Covers offset := by
      intro other hother htoken hcovered
      have hle : token.stop ≤ other.start := htiles.le_start other hother
      exact absurd (Nat.lt_of_lt_of_le htoken.2 hle) (Nat.not_lt.2 hcovered.1)
    rcases List.mem_cons.1 hfirst with rfl | hin
    · rcases List.mem_cons.1 hsecond with rfl | hin'
      · rfl
      · exact absurd hcovers' (hlater second hin' hcovers)
    · rcases List.mem_cons.1 hsecond with rfl | hin'
      · exact absurd hcovers (hlater first hin hcovers')
      · exact ih htiles hin hin'

/-- Tokens that tile a line cover every byte of it. -/
theorem Tiles.exists_covers {line : Line} {start offset : Nat} {tokens : List Token}
    (h : Tiles line start tokens) (hstart : start ≤ offset) (hend : offset < byteLength line) :
    ∃ token ∈ tokens, token.Covers offset := by
  induction tokens generalizing start with
  | nil =>
    have hline : start = byteLength line := h
    omega
  | cons token tokens ih =>
    obtain ⟨rfl, _, _, _, htiles⟩ := h
    rw [List.exists_mem_cons_iff]
    by_cases hbyte : offset < token.stop
    · exact .inl ⟨hstart, hbyte⟩
    · exact .inr (ih htiles (Nat.not_lt.1 hbyte))

/-! ## Run-length form -/

/-- The spans do not touch, or differ in class. -/
def Span.Apart (first second : Span) : Prop := first.stop = second.start → first.cls ≠ second.cls

/-- Spans that hold at least one byte each, lie one after the other, differ in class where they
touch, and are shown in the style of their class. -/
structure RunLength (spans : List Span) : Prop where
  apart : spans.Pairwise fun first second ↦ first.stop ≤ second.start ∧ first.Apart second
  nonempty : ∀ span ∈ spans, span.start < span.stop
  classed : ∀ span ∈ spans, ∃ cls, span.cls = some cls ∧ span.style = cls.style

namespace RunLength

variable {span other : Span} {spans others : List Span}

theorem tail (h : RunLength (span :: spans)) : RunLength spans where
  apart := h.apart.of_cons
  nonempty := fun span hspan ↦ h.nonempty span (List.mem_cons_of_mem _ hspan)
  classed := fun span hspan ↦ h.classed span (List.mem_cons_of_mem _ hspan)

/-- The first span shows its first byte. -/
theorem shows_start (h : RunLength (span :: spans)) :
    ∃ cls, span.cls = some cls ∧ span.style = cls.style ∧
      Shows (span :: spans) span.start cls := by
  obtain ⟨cls, hcls, hstyle⟩ := h.classed span List.mem_cons_self
  have hbyte : span.start < span.stop := h.nonempty span List.mem_cons_self
  exact ⟨cls, hcls, hstyle, shows_cons.2 (.inl ⟨⟨Nat.le_refl _, hbyte⟩, hcls⟩)⟩

/-- What is shown behind the first span begins where it ends, or later. -/
theorem stop_le_of_shows (h : RunLength (span :: spans)) {offset : Nat} {cls : TokenClass}
    (hshows : Shows spans offset cls) : span.stop ≤ offset := by
  obtain ⟨later, hlater, hcontains, _⟩ := hshows
  calc
    span.stop ≤ later.start := ((List.pairwise_cons.1 h.apart).1 later hlater).1
    _ ≤ offset := (Span.contains_iff.1 hcontains).1

theorem start_le_of_shows (h : RunLength (span :: spans)) {offset : Nat} {cls : TokenClass}
    (hshows : Shows (span :: spans) offset cls) : span.start ≤ offset := by
  rcases shows_cons.1 hshows with ⟨⟨hstart, _⟩, _⟩ | hlater
  · exact hstart
  · have hpos := h.nonempty span List.mem_cons_self
    exact Nat.le_trans (Nat.le_of_lt hpos) (h.stop_le_of_shows hlater)

/-- The byte behind the first span is not shown in its class. -/
theorem not_shows_stop (h : RunLength (span :: spans)) {cls : TokenClass}
    (hcls : span.cls = some cls) : ¬ Shows (span :: spans) span.stop cls := by
  intro hshows
  rcases shows_cons.1 hshows with ⟨⟨_, hlt⟩, _⟩ | ⟨later, hlater, hcontains, hsame⟩
  · exact Nat.lt_irrefl _ hlt
  · obtain ⟨hle, hapart⟩ := (List.pairwise_cons.1 h.apart).1 later hlater
    have htouch : span.stop = later.start := Nat.le_antisymm hle (Span.contains_iff.1 hcontains).1
    exact hapart htouch (hcls.trans hsame.symm)

/-- A first span that begins where another does, in its class, ends no later if it shows no more. -/
theorem stop_le_stop (h' : RunLength (other :: others))
    (hshows : ∀ offset cls, Shows (span :: spans) offset cls → Shows (other :: others) offset cls)
    (hstart : span.start = other.start) (hcls : span.cls = other.cls) : span.stop ≤ other.stop := by
  obtain ⟨cls, hother, _⟩ := h'.classed other List.mem_cons_self
  have hbyte : other.start < other.stop := h'.nonempty other List.mem_cons_self
  by_contra hlonger
  apply h'.not_shows_stop hother
  apply hshows
  exact shows_cons.2 (.inl ⟨⟨by omega, by omega⟩, hcls.trans hother⟩)

/-- What the spans behind the first show is what is shown, less the bytes of the first. -/
theorem shows_tail_iff (h : RunLength (span :: spans)) {offset : Nat} {cls : TokenClass} :
    Shows spans offset cls ↔ span.stop ≤ offset ∧ Shows (span :: spans) offset cls := by
  constructor
  · intro hshows
    exact ⟨h.stop_le_of_shows hshows, shows_cons.2 (.inr hshows)⟩
  · rintro ⟨hstop, hshows⟩
    rcases shows_cons.1 hshows with ⟨⟨_, hlt⟩, _⟩ | hlater
    · exact absurd hlt (Nat.not_lt.2 hstop)
    · exact hlater

/-- Where the same bytes are shown, the first spans are the same. -/
theorem head_eq (h : RunLength (span :: spans)) (h' : RunLength (other :: others))
    (hshows : ∀ offset cls,
      Shows (span :: spans) offset cls ↔ Shows (other :: others) offset cls) : span = other := by
  obtain ⟨cls, hcls, hstyle, hspan⟩ := h.shows_start
  obtain ⟨cls', hcls', hstyle', hother⟩ := h'.shows_start
  have hstart : span.start = other.start := by
    apply Nat.le_antisymm
    · exact h.start_le_of_shows ((hshows _ _).2 hother)
    · exact h'.start_le_of_shows ((hshows _ _).1 hspan)
  have hsame : cls = cls' := by
    rcases shows_cons.1 ((hshows _ _).1 hspan) with ⟨_, hfirst⟩ | hlater
    · exact Option.some.inj (hfirst.symm.trans hcls')
    · have hbyte : other.start < other.stop := h'.nonempty other List.mem_cons_self
      have hstop : other.stop ≤ span.start := h'.stop_le_of_shows hlater
      omega
  have hclasses : span.cls = other.cls := by rw [hcls, hcls', hsame]
  have hstyles : span.style = other.style := by rw [hstyle, hstyle', hsame]
  have hstop : span.stop = other.stop := by
    apply Nat.le_antisymm
    · exact stop_le_stop h' (fun offset cls ↦ (hshows offset cls).1) hstart hclasses
    · exact stop_le_stop h (fun offset cls ↦ (hshows offset cls).2) hstart.symm hclasses.symm
  cases span
  cases other
  rw [Span.mk.injEq]
  exact ⟨hstart, hstop, hclasses, hstyles⟩

/-- Spans in run-length form are known by the bytes that they show. -/
theorem eq_of_shows (h : RunLength spans) (h' : RunLength others)
    (hshows : ∀ offset cls, Shows spans offset cls ↔ Shows others offset cls) :
    spans = others := by
  induction spans generalizing others with
  | nil =>
    cases others with
    | nil => rfl
    | cons other others =>
      obtain ⟨cls, _, _, hother⟩ := h'.shows_start
      exact absurd ((hshows other.start cls).2 hother) (not_shows_nil _ _)
  | cons span spans ih =>
    cases others with
    | nil =>
      obtain ⟨cls, _, _, hspan⟩ := h.shows_start
      exact absurd ((hshows span.start cls).1 hspan) (not_shows_nil _ _)
    | cons other others =>
      have hhead : span = other := h.head_eq h' hshows
      have htail : spans = others := by
        apply ih h.tail h'.tail
        intro offset cls
        rw [h.shows_tail_iff, h'.shows_tail_iff, hshows, hhead]
      rw [hhead, htail]

end RunLength

/-! ## Merged tokens -/

/-- To put a span in front keeps every span next to one it is apart from. -/
theorem isChain_joinSpan {spans : List Span} (h : spans.IsChain Span.Apart) (span : Span) :
    (joinSpan span spans).IsChain Span.Apart := by
  cases spans with
  | nil => exact List.isChain_singleton span
  | cons other spans =>
    rw [joinSpan]
    split
    · cases spans with
      | nil => exact List.isChain_singleton _
      | cons next spans =>
        obtain ⟨hnext, hspans⟩ := List.isChain_cons_cons.1 h
        exact List.isChain_cons_cons.2 ⟨hnext, hspans⟩
    · rename_i hjoin
      exact List.isChain_cons_cons.2 ⟨fun htouch hcls ↦ hjoin ⟨htouch, hcls.symm⟩, h⟩

/-- Merged neighbours are apart or differ in class. -/
theorem isChain_mergeTokens (tokens : List Token) : (mergeTokens tokens).IsChain Span.Apart := by
  induction tokens with
  | nil => exact List.isChain_nil
  | cons token tokens ih =>
    cases hcls : token.cls with
    | none =>
      rw [mergeTokens_cons_none hcls]
      exact ih
    | some cls =>
      rw [mergeTokens_cons_some hcls]
      exact isChain_joinSpan ih _

/-- Spans in order that are apart from the next one are apart from all later ones. -/
theorem InOrder.pairwise_apart {line : Line} {offset : Nat} {spans : List Span}
    (h : InOrder line offset spans) (hsize : ∀ span ∈ spans, span.start < span.stop)
    (hchain : spans.IsChain Span.Apart) :
    spans.Pairwise fun first second ↦ first.stop ≤ second.start ∧ first.Apart second := by
  induction spans generalizing offset with
  | nil => exact .nil
  | cons span spans ih =>
    obtain ⟨_, _, _, _, hspans⟩ := h
    obtain ⟨_, hsizes⟩ := List.forall_mem_cons.1 hsize
    apply List.Pairwise.cons _ (ih hspans hsizes hchain.tail)
    intro later hlater
    refine ⟨hspans.le_start later hlater, ?_⟩
    cases spans with
    | nil => cases hlater
    | cons next spans =>
      rcases List.mem_cons.1 hlater with rfl | hbehind
      · exact (List.isChain_cons_cons.1 hchain).1
      · intro htouch
        have hnext : span.stop ≤ next.start := hspans.1
        have hbyte : next.start < next.stop := hsizes next List.mem_cons_self
        have hlast : next.stop ≤ later.start := hspans.2.2.2.2.le_start later hbehind
        omega

/-- The spans that tokens side by side are merged into keep to what a span of the tokens is. -/
theorem Tiles.forall_mem_mergeTokens {line : Line} {start : Nat} {tokens : List Token}
    (h : Tiles line start tokens) :
    ∀ span ∈ mergeTokens tokens, span.start < span.stop ∧
      ∃ cls, span.cls = some cls ∧ span.style = cls.style := by
  induction tokens generalizing start with
  | nil => exact List.forall_mem_nil _
  | cons token tokens ih =>
    obtain ⟨rfl, hlt, _, _, htiles⟩ := h
    have hspans := ih htiles
    cases hcls : token.cls with
    | none =>
      rw [mergeTokens_cons_none hcls]
      exact hspans
    | some cls =>
      rw [mergeTokens_cons_some hcls]
      have horder : InOrder line token.stop (mergeTokens tokens) := htiles.inOrder
      cases hmerged : mergeTokens tokens with
      | nil => exact List.forall_mem_singleton.2 ⟨hlt, cls, rfl, rfl⟩
      | cons other others =>
        rw [hmerged] at hspans horder
        obtain ⟨⟨hbyte, hother⟩, hothers⟩ := List.forall_mem_cons.1 hspans
        rw [joinSpan]
        split
        · have hbefore : token.stop ≤ other.start := horder.1
          have hlonger : token.start < other.stop := by omega
          exact List.forall_mem_cons.2 ⟨⟨hlonger, hother⟩, hothers⟩
        · exact List.forall_mem_cons.2 ⟨⟨hlt, cls, rfl, rfl⟩, hspans⟩

/-- Merging the tokens of a line gives runs. -/
theorem Tiles.runLength {line : Line} {start : Nat} {tokens : List Token}
    (h : Tiles line start tokens) : RunLength (mergeTokens tokens) where
  apart :=
    h.inOrder.pairwise_apart (fun span hspan ↦ (h.forall_mem_mergeTokens span hspan).1)
      (isChain_mergeTokens tokens)
  nonempty := fun span hspan ↦ (h.forall_mem_mergeTokens span hspan).1
  classed := fun span hspan ↦ (h.forall_mem_mergeTokens span hspan).2

/-! ## The spans of a line -/

/-- The spans are in run-length form, lie between boundaries of the line, and show each byte of a
token in the class of the token, and in none where the token has none. -/
structure RunLengthOf (line : Line) (tokens : List Token) (spans : List Span) : Prop
    extends RunLength spans where
  boundary : ∀ span ∈ spans, IsBoundary line span.start ∧ IsBoundary line span.stop
  shows : ∀ token ∈ tokens, ∀ offset, token.Covers offset → ∀ cls,
    Shows spans offset cls ↔ token.cls = some cls
  plain : ∀ token ∈ tokens, token.cls = none → ∀ offset, token.Covers offset →
    ∀ span ∈ spans, span.contains offset = false

/-- They are the runs of those tokens. -/
theorem Tiles.runLengthOf {line : Line} {tokens : List Token} (h : Tiles line 0 tokens) :
    RunLengthOf line tokens (mergeTokens tokens) := by
  have hshows : ∀ token ∈ tokens, ∀ offset, token.Covers offset → ∀ cls,
      Shows (mergeTokens tokens) offset cls ↔ token.cls = some cls := by
    intro token htoken offset hcovers cls
    rw [h.shows_mergeTokens]
    constructor
    · rintro ⟨other, hother, hcovers', hcls⟩
      rw [h.eq_of_covers htoken hother hcovers hcovers']
      exact hcls
    · intro hcls
      exact ⟨token, htoken, hcovers, hcls⟩
  refine ⟨h.runLength, h.inOrder.isBoundary, hshows, ?_⟩
  intro token htoken hplain offset hcovers span hspan
  obtain ⟨cls, hcls, _⟩ := h.runLength.classed span hspan
  rw [Bool.eq_false_iff]
  intro hcontains
  have hshown := (hshows token htoken offset hcovers cls).1 ⟨span, hspan, hcontains, hcls⟩
  rw [hplain] at hshown
  cases hshown

/-- There is one list of spans in run-length form for tokens that cover the line. -/
theorem RunLengthOf.unique {line : Line} {tokens : List Token} (htiles : Tiles line 0 tokens)
    {spans others : List Span} (h : RunLengthOf line tokens spans)
    (h' : RunLengthOf line tokens others) : spans = others := by
  have hsome : ∀ {spans : List Span}, RunLengthOf line tokens spans → ∀ {offset cls},
      Shows spans offset cls → ∃ token ∈ tokens, token.Covers offset := by
    rintro spans hspans offset cls ⟨span, hspan, hcontains, _⟩
    have hend : span.stop ≤ byteLength line := (hspans.boundary span hspan).2.le_byteLength
    have hlt : offset < span.stop := (Span.contains_iff.1 hcontains).2
    exact htiles.exists_covers (Nat.zero_le offset) (Nat.lt_of_lt_of_le hlt hend)
  apply h.toRunLength.eq_of_shows h'.toRunLength
  intro offset cls
  constructor
  · intro hshows
    obtain ⟨token, htoken, hcovers⟩ := hsome h hshows
    rwa [h'.shows token htoken offset hcovers, ← h.shows token htoken offset hcovers]
  · intro hshows
    obtain ⟨token, htoken, hcovers⟩ := hsome h' hshows
    rwa [h.shows token htoken offset hcovers, ← h'.shows token htoken offset hcovers]

/-- An operation that only moves the cursor makes tokens that cover the line; an empty line has
none. -/
theorem OnlyMoves.exists_tiles {mode : Mode} (hmode : OnlyMoves mode.readToken) (line : Line)
    (state : State) (tabSize : Nat) :
    ∃ tokens last, tokenizeLine mode line state tabSize = .ok (tokens, last) ∧
      Tiles line 0 tokens := by
  by_cases hline : line = []
  · subst hline
    exact ⟨[], mode.skipBlankLine state, rfl, rfl⟩
  · have hsound := Cursor.sound_ofLine line tabSize
    obtain ⟨tokens, last, hread⟩ := hmode.exists_readTokens hsound 0 state
    obtain ⟨calls, rest, hrun, rfl⟩ := exists_lineRun hread
    exact ⟨_, last, hrun.tokenizeLine_eq hline, hrun.tiles hmode hsound⟩

/-- The spans of a line are its tokens, merged. -/
theorem highlightLine_eq {mode : Mode} {line : Line} {state last : State} {tabSize : Nat}
    {tokens : List Token} (htokens : tokenizeLine mode line state tabSize = .ok (tokens, last)) :
    highlightLine mode line state tabSize = .ok (mergeTokens tokens, last) := by
  rw [highlightLine, htokens, ok_bind]
  rfl

/-- The spans of a line are the one run-length form of its tokens, and highlighting leaves the state
that reading the tokens leaves. -/
theorem highlightLine_runLength (mode : Mode) (hmode : OnlyMoves mode.readToken) (state : State)
    (tabSize : Nat) (line : Line) :
    ∃ tokens spans last,
      tokenizeLine mode line state tabSize = .ok (tokens, last) ∧
      highlightLine mode line state tabSize = .ok (spans, last) ∧
      (∀ offset < byteLength line, ∃! token, token ∈ tokens ∧ token.Covers offset) ∧
      RunLengthOf line tokens spans ∧
      ∀ others, RunLengthOf line tokens others → others = spans := by
  obtain ⟨tokens, last, htokens, htiles⟩ := hmode.exists_tiles line state tabSize
  refine ⟨tokens, mergeTokens tokens, last, htokens, highlightLine_eq htokens, ?_,
    htiles.runLengthOf, ?_⟩
  · intro offset hend
    obtain ⟨token, htoken, hcovers⟩ := htiles.exists_covers (Nat.zero_le offset) hend
    refine ⟨token, ⟨htoken, hcovers⟩, fun other ⟨hother, hcovers'⟩ ↦ ?_⟩
    exact htiles.eq_of_covers hother htoken hcovers' hcovers
  · intro others hothers
    exact hothers.unique htiles htiles.runLengthOf

/-- Two calls take a keyword of one character each, and one span shows both. -/
theorem highlightLine_runLength_joined :
    OnlyMoves (Sample.stall 1 false).readToken ∧
      ∃ tokens spans last,
        tokenizeLine (Sample.stall 1 false) ['n', 'é'] ((Sample.stall 1 false).start 0) 4 =
          .ok (tokens, last) ∧
        highlightLine (Sample.stall 1 false) ['n', 'é'] ((Sample.stall 1 false).start 0) 4 =
          .ok (spans, last) ∧
        tokens = [⟨0, 1, some .keyword⟩, ⟨1, 3, some .keyword⟩] ∧
        spans = [.ofClass 0 3 (some .keyword)] ∧
        RunLengthOf ['n', 'é'] tokens spans := by
  have hmode := Sample.onlyMoves_stall 1 false
  obtain ⟨tokens, spans, last, htokens, hspans, _, hform, _⟩ :=
    highlightLine_runLength (Sample.stall 1 false) hmode ((Sample.stall 1 false).start 0) 4
      ['n', 'é']
  have hrun : LineRun (Sample.stall 1 false).readToken (.ofLine ['n', 'é'] 4) 0
      ((Sample.stall 1 false).start 0) _ none _ :=
    .advance (by decide) rfl (by decide) (.advance (by decide) rfl (by decide) (.done (by decide)))
  have hknown := htokens.symm.trans (hrun.tokenizeLine_eq (by decide))
  obtain ⟨rfl, rfl⟩ := Prod.mk.inj (Except.ok.inj hknown)
  have hjoined := hspans.symm.trans (highlightLine_eq htokens)
  obtain ⟨rfl, _⟩ := Prod.mk.inj (Except.ok.inj hjoined)
  exact ⟨hmode, _, _, _, htokens, hspans, rfl, rfl, hform⟩

end LineLexer
