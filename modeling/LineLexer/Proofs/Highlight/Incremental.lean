import LineLexer.Mode.Sample
import LineLexer.Proofs.Highlight.Calls
import LineLexer.Proofs.Highlight.Request
import LineLexer.Proofs.Outcome
import LineLexer.Proofs.Text.Boundary

/-!
# Incremental highlighting

A cache that serves a disciplined host gives the answers of an empty cache. The invariant is that
the lines it holds for up to date are those that the document sent last gives from scratch, and
that none of them was declared out of date since; lines past these may linger in the cache and are
never looked at. A fault while a line is read is an answer too: the cache fails where an empty one
fails, and with the same fault.
-/

namespace LineLexer.HighlightCache

open Outcome

/-! ## Lines from scratch -/

/-- The state of the last of some lines, or the state before them. -/
def lastState? (previous : Option State) (lines : List CachedLine) : Option State :=
  (lines.getLast?.map CachedLine.state).or previous

theorem lastState?_cons (previous : Option State) (line : CachedLine) (lines : List CachedLine) :
    lastState? previous (line :: lines) = lastState? (some line.state) lines := by
  cases hlast : lines.getLast? with
  | none => simp [lastState?, List.getLast?_eq_none_iff.1 hlast]
  | some last => simp [lastState?, List.getLast?_cons, hlast]

variable {mode : Mode} {tabSize : Nat}

/-- Lines are highlighted from the state that the lines before them reach. -/
theorem highlightAfter_append (previous : Option State) (first second : List Line) :
    highlightAfter mode tabSize previous (first ++ second) = do
      let lines ← highlightAfter mode tabSize previous first
      let others ← highlightAfter mode tabSize (lastState? previous lines) second
      return lines ++ others := by
  induction first generalizing previous with
  | nil => simp [highlightAfter, lastState?, bind_ok]
  | cons line first ih =>
    simp only [List.cons_append, highlightAfter, ih, bind_assoc, pure_eq_ok, ok_bind,
      lastState?_cons]

theorem length_of_highlightAfter {previous : Option State} {document : List Line}
    {lines : List CachedLine} (h : highlightAfter mode tabSize previous document = .ok lines) :
    lines.length = document.length := by
  induction document generalizing previous lines with
  | nil =>
    simp only [highlightAfter, Except.ok.injEq] at h
    simp [← h]
  | cons line document ih =>
    simp only [highlightAfter, bind_eq_ok_iff, pure_eq_ok, Except.ok.injEq] at h
    obtain ⟨⟨spans, after⟩, _, others, hothers, rfl⟩ := h
    simp [ih hothers]

/-- What is highlighted of the first lines of a document does not depend on the others. -/
theorem highlightAfter_take {previous : Option State} {document : List Line}
    {lines : List CachedLine} (h : highlightAfter mode tabSize previous document = .ok lines)
    (count : Nat) :
    highlightAfter mode tabSize previous (document.take count) = .ok (lines.take count) := by
  rw [← List.take_append_drop count document, highlightAfter_append] at h
  simp only [bind_eq_ok_iff, pure_eq_ok, Except.ok.injEq] at h
  obtain ⟨firsts, hfirsts, others, hothers, rfl⟩ := h
  have hlength := length_of_highlightAfter hfirsts
  have hothers := length_of_highlightAfter hothers
  rw [hfirsts]
  rcases Nat.le_total count document.length with hle | hle
  · rw [List.take_left' (by simpa [hle] using hlength)]
  · have hnil : others = [] := by simpa [hle] using hothers
    rw [hnil, List.append_nil, List.take_of_length_le (by simp_all)]

/-! ## Lines that are up to date -/

/-- The lines that a cache holds for up to date are those of a document, as far as it goes. -/
structure Holds (cache : HighlightCache) (document : List Line) : Prop where
  valid_le : cache.validLines ≤ cache.lines.length
  lines_eq : highlightAfter cache.mode cache.tabSize none
      (document.take (min cache.validLines document.length)) =
    .ok (cache.lines.take (min cache.validLines document.length))

/-- A new cache holds for every document. -/
theorem holds_ofMode (mode : Mode) (tabSize : Nat) (document : List Line) :
    (ofMode mode tabSize).Holds document where
  valid_le := Nat.le_refl _
  lines_eq := by simp [ofMode, highlightAfter]

variable {cache after : HighlightCache} {document : List Line} {count : Nat}

/-- A document that agrees with another one on the lines up to date is held as well. -/
theorem Holds.of_agrees {other : List Line} (h : cache.Holds other)
    (hvalid : cache.validLines ≤ other.length)
    (hagree : ∀ index < cache.validLines, index < document.length →
      other[index]? = document[index]?) : cache.Holds document where
  valid_le := h.valid_le
  lines_eq := by
    have hlines := highlightAfter_take h.lines_eq (min cache.validLines document.length)
    have htake : other.take (min cache.validLines document.length) =
        document.take (min cache.validLines document.length) := by
      apply List.ext_getElem?
      intro index
      rw [List.getElem?_take, List.getElem?_take]
      split
      · exact hagree index (by omega) (by omega)
      · rfl
    rw [List.take_take, List.take_take] at hlines
    rw [show min (min cache.validLines document.length) (min cache.validLines other.length) =
      min cache.validLines document.length by omega] at hlines
    rw [← htake]
    exact hlines

/-- Where lines are missing, a cache comes to what the document gives from scratch. -/
theorem ensureLines_of_lt (h : cache.Holds document)
    (hlt : min cache.validLines document.length < min count document.length) :
    cache.ensureLines document count =
      (highlightAfter cache.mode cache.tabSize none (document.take count)).map fun lines ↦
        { cache with lines, validLines := min count document.length } := by
  have hsplit : document.take count =
      document.take (min cache.validLines document.length) ++
        (document.take (min count document.length)).drop
          (min cache.validLines document.length) := by
    have hcount : document.take count = document.take (min count document.length) := by
      rw [List.take_eq_take_min]
    rw [hcount, ← List.take_append_drop (min cache.validLines document.length)
      (document.take (min count document.length)), List.take_take, Nat.min_eq_left (Nat.le_of_lt hlt)]
    simp
  have hprevious : lastState? none (cache.lines.take (min cache.validLines document.length)) =
      (cache.lines.take (min cache.validLines document.length)).getLast?.map
        CachedLine.state := by
    simp [lastState?]
  rw [hsplit, highlightAfter_append, h.lines_eq, ok_bind, hprevious]
  simp only [ensureLines, if_neg (Nat.not_le.2 hlt)]
  cases highlightAfter cache.mode cache.tabSize _ _ <;> rfl

/-- Lines that are valid already are not read again. -/
theorem ensureLines_of_le (hle : min count document.length ≤ min cache.validLines document.length) :
    cache.ensureLines document count =
      .ok { cache with
        lines := cache.lines.take document.length
        validLines := min cache.validLines document.length } := by
  simp only [ensureLines, if_pos hle]

/-- The lines asked for are those from scratch, whatever was cached before. -/
theorem ensureLines_lines (h : cache.Holds document) (count : Nat) :
    ((cache.ensureLines document count).map fun after ↦
        after.lines.take (min count document.length)) =
      highlightAfter cache.mode cache.tabSize none (document.take count) := by
  rcases Nat.lt_or_ge (min cache.validLines document.length) (min count document.length) with
    hlt | hle
  · rw [ensureLines_of_lt h hlt]
    cases hscratch : highlightAfter cache.mode cache.tabSize none (document.take count) with
    | error fault => rfl
    | ok lines =>
      have hlength := length_of_highlightAfter hscratch
      simp only [map_ok, Except.ok.injEq]
      exact List.take_of_length_le (by simp_all)
  · rw [ensureLines_of_le hle]
    have hlines := highlightAfter_take h.lines_eq (min count document.length)
    rw [List.take_take, List.take_take, Nat.min_eq_left hle, ← List.take_eq_take_min] at hlines
    rw [hlines, map_ok, List.take_take, Nat.min_eq_left (Nat.min_le_right _ _)]

/-- After lines were asked for, they are up to date, and the cache holds the document. -/
theorem holds_of_ensureLines (h : cache.Holds document)
    (hensure : cache.ensureLines document count = .ok after) :
    after.Holds document ∧ after.mode = cache.mode ∧ after.tabSize = cache.tabSize ∧
      after.validLines ≤ document.length ∧ min count document.length ≤ after.validLines := by
  rcases Nat.lt_or_ge (min cache.validLines document.length) (min count document.length) with
    hlt | hle
  · rw [ensureLines_of_lt h hlt] at hensure
    cases hscratch : highlightAfter cache.mode cache.tabSize none (document.take count) with
    | error fault => simp [hscratch] at hensure
    | ok lines =>
      have hlength := length_of_highlightAfter hscratch
      simp only [hscratch, map_ok, Except.ok.injEq] at hensure
      subst hensure
      refine ⟨⟨by simp_all, ?_⟩, rfl, rfl, Nat.min_le_right _ _, Nat.le_refl _⟩
      simp only [Nat.min_assoc, Nat.min_self]
      rw [← List.take_eq_take_min, hscratch, List.take_of_length_le (by simp_all)]
  · rw [ensureLines_of_le hle, Except.ok.injEq] at hensure
    subst hensure
    have hvalid := h.valid_le
    refine ⟨⟨?_, ?_⟩, rfl, rfl, Nat.min_le_right _ _, hle⟩
    · simp only [List.length_take]
      omega
    · simp only [Nat.min_assoc, Nat.min_self, List.take_take]
      exact h.lines_eq

/-! ## Answers -/

/-- A cache that holds for a document answers what highlighting it afresh does. -/
theorem highlightDocument_answer (h : cache.Holds document) :
    (cache.highlightDocument document).map Prod.fst =
      (highlightAfter cache.mode cache.tabSize none document).map (List.map CachedLine.spans) := by
  have hlines := ensureLines_lines h document.length
  rw [List.take_length, Nat.min_self] at hlines
  rw [← hlines, highlightDocument]
  cases cache.ensureLines document document.length <;> rfl

/-- The state at the end of a line that is up to date is that of the last line up to there. -/
theorem stateAfter?_eq_lastState? (h : cache.Holds document) {line : Nat}
    (hline : line < cache.validLines) :
    cache.stateAfter? line = lastState? none (cache.lines.take (line + 1)) := by
  have hvalid := h.valid_le
  have hlast : (cache.lines.take (line + 1)).getLast? = cache.lines[line]? := by
    rw [List.getLast?_eq_getElem?, List.getElem?_take, List.length_take,
      Nat.min_eq_left (by omega)]
    simp
  simp [stateAfter?, hline, lastState?, hlast]

/-- So does its indentation of a line. -/
theorem indentLine_answer (h : cache.Holds document) {line : Nat} {text : Line}
    (htext : document[line]? = some text) :
    (cache.indentLine document line).map Prod.fst =
      (highlightAfter cache.mode cache.tabSize none (document.take line)).map fun lines ↦
        cache.mode.suggestIndent ((lastState? none lines).getD (cache.mode.start 0))
          (trimStart text) := by
  obtain ⟨hline, _⟩ := List.getElem?_eq_some_iff.1 htext
  have hlines := ensureLines_lines h line
  rw [Nat.min_eq_left (Nat.le_of_lt hline)] at hlines
  rw [← hlines, indentLine, htext]
  cases hensure : cache.ensureLines document line with
  | error fault => rfl
  | ok after =>
    obtain ⟨hafter, hmode, _, _, hvalid⟩ := holds_of_ensureLines h hensure
    rw [Nat.min_eq_left (Nat.le_of_lt hline)] at hvalid
    cases line with
    | zero => simp [hmode, lastState?]
    | succ previous => simp [hmode, stateAfter?_eq_lastState? hafter hvalid]

theorem indentLine_of_none {line : Nat} (hnone : document[line]? = none) :
    cache.indentLine document line = .ok (none, cache) := by
  simp only [indentLine, hnone]

/-- States are handed out for valid lines only. -/
theorem lt_validLines_of_stateAfter? {line : Nat} {state : State}
    (hstate : cache.stateAfter? line = some state) : line < cache.validLines := by
  unfold stateAfter? at hstate
  split at hstate
  · assumption
  · cases hstate

/-- The first lines that a cache holds for up to date, as reading them from scratch gives them. -/
theorem Holds.scratch_eq (h : cache.Holds document) {line : Nat} (hline : line < cache.validLines)
    (hlength : line < document.length) :
    highlightAfter cache.mode cache.tabSize none (document.take (line + 1)) =
      .ok (cache.lines.take (line + 1)) := by
  have hlines := highlightAfter_take h.lines_eq (line + 1)
  rw [List.take_take, List.take_take, Nat.min_eq_left (by omega)] at hlines
  exact hlines

/-- Two caches that hold a document know the same state after a line, if both know one. -/
theorem Holds.stateAfter?_eq {other : HighlightCache} (h : cache.Holds document)
    (hother : other.Holds document) (hmode : other.mode = cache.mode)
    (htab : other.tabSize = cache.tabSize) {line : Nat} (hline : line < cache.validLines)
    (hknown : line < other.validLines) (hlength : line < document.length) :
    other.stateAfter? line = cache.stateAfter? line := by
  have hscratch := h.scratch_eq hline hlength
  rw [← hmode, ← htab, hother.scratch_eq hknown hlength, Except.ok.injEq] at hscratch
  rw [stateAfter?_eq_lastState? h hline, stateAfter?_eq_lastState? hother hknown, hscratch]

/-! ## Sessions -/

/-- A cache in step with its host: it holds the document sent last, and nothing that was declared
out of date since. -/
structure InStep (cache : HighlightCache) (session : Session) : Prop where
  holds : cache.Holds session.document
  valid_le : cache.validLines ≤ session.document.length
  announced : ∀ request ∈ session.since, ∀ index, request.Announces index →
    cache.validLines ≤ index

variable {session : Session} {request : Request}

/-- An empty cache is in step with every host. -/
theorem inStep_ofMode (mode : Mode) (tabSize : Nat) (session : Session) :
    (ofMode mode tabSize).InStep session where
  holds := holds_ofMode mode tabSize session.document
  valid_le := Nat.zero_le _
  announced := by simp [ofMode]

/-- A line that a permitted request changes is out of date already. -/
theorem InStep.holds_of_permits (h : cache.InStep session) (hpermits : session.Permits request)
    (hdocument : request.document? = some document) : cache.Holds document := by
  apply h.holds.of_agrees h.valid_le
  intro index hindex hlength
  apply Decidable.byContradiction
  intro hdiffers
  have hvalid := h.valid_le
  obtain ⟨earlier, hmem, hannounces⟩ :=
    hpermits document hdocument index (by omega) hlength hdiffers
  have := h.announced earlier hmem index hannounces
  omega

/-- A request with a document goes on from that document. -/
theorem Session.after_of_document (hdocument : request.document? = some document) :
    session.after request = { document } := by
  simp only [Session.after, hdocument]

/-- A request without one is kept among those since the last document. -/
theorem Session.after_of_none (hnone : request.document? = none) :
    session.after request = { session with since := session.since ++ [request] } := by
  simp only [Session.after, hnone]

/-- Once the lines are ensured for a document the cache is in step with it. -/
theorem inStep_of_ensureLines (h : cache.Holds document)
    (hensure : cache.ensureLines document count = .ok after) :
    after.InStep { document } ∧ after.mode = cache.mode ∧ after.tabSize = cache.tabSize := by
  obtain ⟨hafter, hmode, htab, hvalid, _⟩ := holds_of_ensureLines h hensure
  exact ⟨⟨hafter, hvalid, by simp⟩, hmode, htab⟩

/-- A cache that forgets lines stays in step, if it forgets all that the request declares. -/
theorem InStep.forget {valid : Nat} (h : cache.InStep session) (hvalid : valid ≤ cache.validLines)
    (hnone : request.document? = none)
    (hannounced : ∀ index, request.Announces index → valid ≤ index) :
    { cache with validLines := valid }.InStep (session.after request) := by
  rw [Session.after_of_none hnone]
  have hle := h.holds.valid_le
  have hdocument := h.valid_le
  refine ⟨⟨?_, ?_⟩, ?_, ?_⟩
  · exact Nat.le_trans hvalid hle
  · have hlines := highlightAfter_take h.holds.lines_eq (min valid session.document.length)
    rw [List.take_take, List.take_take, Nat.min_eq_left (by omega)] at hlines
    exact hlines
  · exact Nat.le_trans hvalid hdocument
  · intro earlier hmem index hindex
    rcases List.mem_append.1 hmem with hold | hnew
    · exact Nat.le_trans hvalid (h.announced earlier hold index hindex)
    · rw [List.mem_singleton] at hnew
      subst hnew
      exact hannounced index hindex

/-- One request keeps a cache in step with its host. -/
theorem InStep.serve (h : cache.InStep session) (hpermits : session.Permits request)
    {answer : Answer} (hserve : cache.serve request = .ok (answer, after)) :
    after.InStep (session.after request) ∧ after.mode = request.modeAfter cache.mode ∧
      after.tabSize = cache.tabSize := by
  cases request with
  | highlight document =>
    simp only [HighlightCache.serve, highlightDocument, bind_assoc, pure_eq_ok, ok_bind,
      bind_eq_ok_iff, Except.ok.injEq, Prod.mk.injEq] at hserve
    obtain ⟨filled, hensure, _, rfl⟩ := hserve
    exact inStep_of_ensureLines (h.holds_of_permits hpermits rfl) hensure
  | indent document line =>
    cases htext : document[line]? with
    | none =>
      simp only [HighlightCache.serve, indentLine_of_none htext, ok_bind, pure_eq_ok,
        Except.ok.injEq, Prod.mk.injEq] at hserve
      obtain ⟨_, rfl⟩ := hserve
      have hnone : (Request.indent document line).document? = none := by
        simp [Request.document?, List.getElem?_eq_none_iff.1 htext]
      exact ⟨h.forget (Nat.le_refl _) hnone (fun _ hfalse ↦ hfalse.elim), rfl, rfl⟩
    | some text =>
      obtain ⟨hline, _⟩ := List.getElem?_eq_some_iff.1 htext
      have hdocument : (Request.indent document line).document? = some document := by
        simp [Request.document?, hline]
      simp only [HighlightCache.serve, indentLine, htext, bind_assoc, pure_eq_ok, ok_bind,
        bind_eq_ok_iff, Except.ok.injEq, Prod.mk.injEq] at hserve
      obtain ⟨filled, hensure, _, rfl⟩ := hserve
      rw [Session.after_of_document hdocument]
      exact inStep_of_ensureLines (h.holds_of_permits hpermits hdocument) hensure
  | invalidateFrom line =>
    simp only [HighlightCache.serve, Except.ok.injEq, Prod.mk.injEq] at hserve
    obtain ⟨_, rfl⟩ := hserve
    refine ⟨h.forget (Nat.min_le_left cache.validLines line) rfl ?_, rfl, rfl⟩
    intro index hindex
    exact Nat.le_trans (Nat.min_le_right _ _) hindex
  | invalidateAll =>
    simp only [HighlightCache.serve, Except.ok.injEq, Prod.mk.injEq] at hserve
    obtain ⟨_, rfl⟩ := hserve
    exact ⟨inStep_ofMode cache.mode cache.tabSize _, rfl, rfl⟩
  | setMode mode =>
    simp only [HighlightCache.serve, Except.ok.injEq, Prod.mk.injEq] at hserve
    obtain ⟨_, rfl⟩ := hserve
    exact ⟨inStep_ofMode mode cache.tabSize _, rfl, rfl⟩
  | stateAfter line =>
    simp only [HighlightCache.serve, Except.ok.injEq, Prod.mk.injEq] at hserve
    obtain ⟨_, rfl⟩ := hserve
    exact ⟨h.forget (Nat.le_refl _) rfl (fun _ hfalse ↦ hfalse.elim), rfl, rfl⟩

/-- Requests keep a cache in step with its host. -/
theorem InStep.serveAll {requests : List Request} {answers : List Answer} {last : HighlightCache}
    (h : cache.InStep session) (hdisciplined : session.Disciplined requests)
    (hrun : cache.serveAll requests = .ok (answers, last)) :
    last.InStep (requests.foldl Session.after session) ∧
      last.mode = requests.foldl Request.modeAfter cache.mode ∧ last.tabSize = cache.tabSize := by
  induction requests generalizing cache session answers with
  | nil =>
    simp only [HighlightCache.serveAll, Except.ok.injEq, Prod.mk.injEq] at hrun
    obtain ⟨_, rfl⟩ := hrun
    exact ⟨h, rfl, rfl⟩
  | cons request requests ih =>
    obtain ⟨hpermits, hrest⟩ := hdisciplined
    simp only [HighlightCache.serveAll, bind_eq_ok_iff, pure_eq_ok, Except.ok.injEq,
      Prod.mk.injEq] at hrun
    obtain ⟨⟨answer, after⟩, hserve, ⟨others, _⟩, hothers, _, rfl⟩ := hrun
    obtain ⟨hafter, hmode, htab⟩ := h.serve hpermits hserve
    obtain ⟨hlast, hlastMode, hlastTab⟩ := ih hafter hrest hothers
    exact ⟨hlast, by rw [hlastMode, hmode, List.foldl_cons], hlastTab.trans htab⟩

/-- In a session that keeps the discipline each request is permitted when it is made. -/
theorem Session.Disciplined.split {served later : List Request}
    (h : session.Disciplined (served ++ request :: later)) :
    session.Disciplined served ∧ (served.foldl Session.after session).Permits request := by
  induction served generalizing session with
  | nil => exact ⟨trivial, h.1⟩
  | cons first served ih =>
    obtain ⟨hserved, hpermits⟩ := ih h.2
    exact ⟨⟨h.1, hserved⟩, hpermits⟩

/-- A cache in step answers as an empty one. -/
theorem InStep.serve_answer (h : cache.InStep session) (hpermits : session.Permits request)
    (hasks : ∀ line, request ≠ .stateAfter line) :
    (cache.serve request).map Prod.fst =
      ((ofMode cache.mode cache.tabSize).serve request).map Prod.fst := by
  cases request with
  | highlight document =>
    have hanswer : (cache.highlightDocument document).map Prod.fst =
        ((ofMode cache.mode cache.tabSize).highlightDocument document).map Prod.fst := by
      rw [highlightDocument_answer (h.holds_of_permits hpermits rfl),
        highlightDocument_answer (holds_ofMode _ _ _)]
      rfl
    exact map_fst_bind_eq Answer.spans hanswer
  | indent document line =>
    have hanswer : (cache.indentLine document line).map Prod.fst =
        ((ofMode cache.mode cache.tabSize).indentLine document line).map Prod.fst := by
      cases htext : document[line]? with
      | none => simp only [indentLine_of_none htext, map_ok]
      | some text =>
        obtain ⟨hline, _⟩ := List.getElem?_eq_some_iff.1 htext
        have hdocument : (Request.indent document line).document? = some document := by
          simp [Request.document?, hline]
        rw [indentLine_answer (h.holds_of_permits hpermits hdocument) htext,
          indentLine_answer (holds_ofMode _ _ _) htext]
        rfl
    exact map_fst_bind_eq Answer.indentation hanswer
  | invalidateFrom line => rfl
  | invalidateAll => rfl
  | setMode mode => rfl
  | stateAfter line => exact absurd rfl (hasks line)

/-- Asked for enough lines, an empty cache knows what a cache in step knows. -/
theorem InStep.stateAfter?_fresh {line : Nat} {state : State} {filled : HighlightCache}
    (h : cache.InStep session) (hstate : cache.stateAfter? line = some state) (hcount : line < count)
    (hfilled : (ofMode cache.mode cache.tabSize).ensureLines session.document count = .ok filled) :
    filled.stateAfter? line = some state := by
  have hline := lt_validLines_of_stateAfter? hstate
  have hlength := Nat.lt_of_lt_of_le hline h.valid_le
  obtain ⟨hholds, hmode, htab, _, hvalid⟩ := holds_of_ensureLines (holds_ofMode _ _ _) hfilled
  rw [h.holds.stateAfter?_eq hholds hmode htab hline (by omega) hlength, hstate]

/-- Where the cache has a state of a line, highlighting afresh reaches that line. -/
theorem InStep.ensureLines_fresh {line : Nat} {state : State} (h : cache.InStep session)
    (hstate : cache.stateAfter? line = some state) :
    ∃ filled,
      (ofMode cache.mode cache.tabSize).ensureLines session.document (line + 1) = .ok filled := by
  have hline := lt_validLines_of_stateAfter? hstate
  have hlines := ensureLines_lines (holds_ofMode cache.mode cache.tabSize session.document) (line + 1)
  have hscratch := h.holds.scratch_eq hline (Nat.lt_of_lt_of_le hline h.valid_le)
  cases hensure : (ofMode cache.mode cache.tabSize).ensureLines session.document (line + 1) with
  | ok filled => exact ⟨filled, rfl⟩
  | error fault =>
    rw [hensure, map_error] at hlines
    exact absurd (hlines.trans hscratch) (by simp)

/-! ## Lookups by index -/

/-- The state before each line is found by its index, if as many lines are cached as its number. -/
theorem fillFrom_eq {cached : List CachedLine} {index : Nat} (hlength : cached.length = index)
    (lines : List Line) :
    fillFrom mode tabSize index cached lines =
      ((highlightAfter mode tabSize (cached.getLast?.map CachedLine.state) lines).map
        (cached ++ ·)).mapError .slice := by
  induction lines generalizing cached index with
  | nil => simp [fillFrom, highlightAfter]
  | cons line lines ih =>
    have hnext (spans : List Span) (state : State) :
        fillFrom mode tabSize (index + 1) (cached ++ [⟨spans, state⟩]) lines =
          ((highlightAfter mode tabSize (some state) lines).map
            fun others ↦ cached ++ ⟨spans, state⟩ :: others).mapError .slice := by
      rw [ih (by simp [hlength])]
      simp
    cases index with
    | zero =>
      obtain rfl : cached = [] := List.length_eq_zero_iff.1 hlength
      simp only [fillFrom, highlightAfter, ok_bind, hnext, List.getLast?_nil, Option.map_none]
      cases highlightLine mode line (mode.start 0) tabSize with
      | error fault => rfl
      | ok reached =>
        simp only [mapError_ok, ok_bind]
        cases highlightAfter mode tabSize (some reached.2) lines <;> rfl
    | succ previous =>
      have hlast : cached.getLast? = cached[previous]? := by
        rw [List.getLast?_eq_getElem?, hlength, Nat.add_sub_cancel]
      obtain ⟨found, hfound⟩ : ∃ found, cached[previous]? = some found :=
        ⟨_, List.getElem?_eq_getElem (by omega)⟩
      simp only [fillFrom, highlightAfter, hfound, hlast, Option.map_some, ok_bind, hnext]
      cases highlightLine mode line (mode.copy found.state) tabSize with
      | error fault => rfl
      | ok reached =>
        simp only [mapError_ok, ok_bind]
        cases highlightAfter mode tabSize (some reached.2) lines <;> rfl

/-- Filling the cache index by index is filling it line by line. -/
theorem ensureLinesByIndex_eq (hvalid : cache.validLines ≤ cache.lines.length)
    (document : List Line) (count : Nat) :
    cache.ensureLinesByIndex document count =
      (cache.ensureLines document count).mapError .slice := by
  simp only [ensureLinesByIndex, ensureLines]
  split
  · rfl
  · rw [fillFrom_eq (by simp only [List.length_take]; omega)]
    cases highlightAfter cache.mode cache.tabSize _ _ <;> rfl

/-- A cache in step looks up no line that it has not cached. -/
theorem InStep.serveByIndex (h : cache.InStep session) (hpermits : session.Permits request) :
    cache.serveByIndex request = (cache.serve request).mapError .slice := by
  have hensure := ensureLinesByIndex_eq h.holds.valid_le
  cases request with
  | highlight document =>
    simp only [HighlightCache.serveByIndex, HighlightCache.serve, highlightDocument, hensure]
    cases hfilled : cache.ensureLines document document.length with
    | error fault => rfl
    | ok after =>
      obtain ⟨hafter, _, _, _, hcount⟩ :=
        holds_of_ensureLines (h.holds_of_permits hpermits rfl) hfilled
      have hcached : document.length ≤ after.lines.length := by
        have := hafter.valid_le
        omega
      simp [hcached]
  | indent document line =>
    simp only [HighlightCache.serveByIndex, HighlightCache.serve, indentLine, hensure]
    cases document[line]? with
    | none => rfl
    | some text => cases cache.ensureLines document line <;> rfl
  | invalidateFrom line => rfl
  | invalidateAll => rfl
  | setMode mode => rfl
  | stateAfter line => rfl

/-! ## Main statement -/

theorem highlightLine_bare {line : Line} (hline : line ≠ []) (state : State) (tabSize : Nat) :
    highlightLine Sample.bare line state tabSize =
      .ok ([.ofClass 0 (byteLength line) (some .marker)], state) := by
  have hlength : 0 < byteLength line := byteLength_pos_iff.2 hline
  have hrun : LineRun Sample.bare.readToken (.ofLine line tabSize) 0 state _ none state :=
    .advance hlength rfl hlength (.done (Nat.le_refl _))
  rw [highlightLine, tokenizeLine, if_neg (by simpa using hline), hrun.readTokens_eq,
    LineRun.tokensOf_cons_advance hlength]
  rfl

end LineLexer.HighlightCache
