import LineLexer.Proofs.Pattern.Consumes
import LineLexer.Proofs.Scan.BackUp
import LineLexer.Scan.Program

/-!
# Programs stay on boundaries

The places of a cursor are boundaries of its line: where it stands, where its token begins and where
the hidden part ends. No action of a program leads away from boundaries and none asks for a bad
slice, except to look at a token that begins behind the cursor. Nothing is assumed about the order
of the three places. A nested program gives back the hidden part it was given, and one that breaks
off in the middle is one that ends there and gives up.
-/

namespace LineLexer

open Outcome Scan

/-- The three places of a cursor are boundaries of its line. -/
structure Cursor.OnBoundaries (line : Line) (cursor : Cursor) : Prop where
  line_eq : cursor.line = line
  pos : IsBoundary line cursor.pos
  start : IsBoundary line cursor.start
  lineStart : IsBoundary line cursor.lineStart

namespace Cursor.OnBoundaries

variable {line : Line} {cursor : Cursor}

theorem ofLine (line : Line) (tabSize : Nat) : (Cursor.ofLine line tabSize).OnBoundaries line :=
  ⟨rfl, isBoundary_zero line, isBoundary_zero line, isBoundary_zero line⟩

theorem moveTo (h : cursor.OnBoundaries line) {pos : Nat} (hpos : IsBoundary line pos) :
    Cursor.OnBoundaries line { cursor with pos } :=
  ⟨h.line_eq, hpos, h.start, h.lineStart⟩

theorem hideTo (h : cursor.OnBoundaries line) {lineStart : Nat}
    (hlineStart : IsBoundary line lineStart) :
    Cursor.OnBoundaries line { cursor with lineStart } :=
  ⟨h.line_eq, h.pos, h.start, hlineStart⟩

theorem beginToken (h : cursor.OnBoundaries line) : cursor.beginToken.OnBoundaries line :=
  ⟨h.line_eq, h.pos, h.pos, h.lineStart⟩

/-- The remembered column is no place. -/
theorem recallColumn (h : cursor.OnBoundaries line) : cursor.recallColumn.OnBoundaries line := by
  unfold Cursor.recallColumn
  split
  · exact ⟨h.line_eq, h.pos, h.start, h.lineStart⟩
  · split
    · exact ⟨h.line_eq, h.pos, h.start, h.lineStart⟩
    · exact h

/-- No place lies behind the end of the line. -/
theorem le_byteLength (h : cursor.OnBoundaries line) :
    cursor.pos ≤ byteLength line ∧ cursor.start ≤ byteLength line ∧
      cursor.lineStart ≤ byteLength line :=
  ⟨h.pos.le_byteLength, h.start.le_byteLength, h.lineStart.le_byteLength⟩

end Cursor.OnBoundaries

namespace Scan

variable {α β : Type} {line before text after : List Char} {cursor : Cursor}

/-! ## Actions that end -/

/-- The action ends without a fault, and its answer and the cursor it leaves satisfy `post`. -/
def Ends (action : Scan α) (cursor : Cursor) (post : α → Cursor → Prop) : Prop :=
  ∃ a reached, action cursor = .ok (a, reached) ∧ post a reached

/-- The action ends with the cursor on boundaries of its line. -/
abbrev Stays (action : Scan α) (line : Line) (cursor : Cursor) : Prop :=
  Ends action cursor fun _ reached ↦ reached.OnBoundaries line

theorem Ends.pure {post : α → Cursor → Prop} {a : α} (h : post a cursor) :
    Ends (pure a) cursor post :=
  ⟨a, cursor, rfl, h⟩

theorem Ends.bind {action : Scan β} {next : β → Scan α} {post : α → Cursor → Prop}
    (h : Ends action cursor fun b reached ↦ Ends (next b) reached post) :
    Ends (action >>= next) cursor post := by
  obtain ⟨b, middle, hrun, a, reached, hnext, hpost⟩ := h
  refine ⟨a, reached, ?_, hpost⟩
  rw [bind_apply, hrun, ok_bind, hnext]

/-- What lies ahead of the cursor. -/
theorem Ends.rest {post : List Char → Cursor → Prop} (h : cursor.OnBoundaries line)
    (hpost : ∀ before after, line = before ++ after → cursor.pos = byteLength before →
      post after cursor) : Ends Scan.rest cursor post := by
  obtain ⟨before, after, hline, hpos⟩ := h.pos
  exact ⟨after, cursor, rest_of_append (h.line_eq.trans hline) hpos.symm,
    hpost before after hline hpos.symm⟩

/-- To go over a text that lies ahead. -/
theorem Stays.advance (h : cursor.OnBoundaries line) (hline : line = before ++ (text ++ after))
    (hpos : cursor.pos = byteLength before) : Stays (Scan.advance text) line cursor := by
  refine ⟨(), _, rfl, h.moveTo ?_⟩
  rw [hpos, hline]
  exact isBoundary_add before text after

/-- A match that is consumed moves to its end. -/
theorem Stays.advance_if (h : cursor.OnBoundaries line) (hline : line = before ++ (text ++ after))
    (hpos : cursor.pos = byteLength before) (consume : Bool) (a : α) :
    Stays (do
      if consume then Scan.advance text
      return a) line cursor := by
  cases consume with
  | false => exact .pure h
  | true =>
    obtain ⟨_, reached, hrun, hreached⟩ := Stays.advance h hline hpos
    exact .bind ⟨(), reached, hrun, .pure hreached⟩

/-! ## Forward and back -/

namespace Stays

theorem rest (h : cursor.OnBoundaries line) : Stays Scan.rest line cursor :=
  Ends.rest h fun _ _ _ _ ↦ h

theorem peek (h : cursor.OnBoundaries line) : Stays Scan.peek line cursor :=
  .bind (.rest h fun _ _ _ _ ↦ .pure h)

theorem eat (h : cursor.OnBoundaries line) (accepts : Char → Bool) :
    Stays (Scan.eat accepts) line cursor := by
  refine .bind (.bind (.rest h fun before after hline hpos ↦ .pure ?_))
  cases after with
  | nil => exact .pure h
  | cons c after =>
    rw [List.head?_cons]
    dsimp only
    split
    · have htaken : line = before ++ ([c] ++ after) := hline
      obtain ⟨_, reached, hrun, hreached⟩ := Stays.advance h htaken hpos
      exact .bind ⟨(), reached, hrun, .pure hreached⟩
    · exact .pure h

theorem eatWhile (h : cursor.OnBoundaries line) (accepts : Char → Bool) :
    Stays (Scan.eatWhile accepts) line cursor := by
  refine .bind (.rest h fun before after hline hpos ↦ ?_)
  rw [← List.takeWhile_append_dropWhile (p := accepts) (l := after)] at hline
  obtain ⟨_, reached, hrun, hreached⟩ := Stays.advance h hline hpos
  exact .bind ⟨(), reached, hrun, .pure hreached⟩

theorem skipToEnd (h : cursor.OnBoundaries line) : Stays Scan.skipToEnd line cursor := by
  refine ⟨(), _, rfl, h.moveTo ?_⟩
  rw [h.line_eq]
  exact isBoundary_byteLength line

theorem skipTo (h : cursor.OnBoundaries line) (c : Char) : Stays (Scan.skipTo c) line cursor := by
  refine .bind (.rest h fun before after hline hpos ↦ ?_)
  cases hoffset : offsetOf? [c] after with
  | none => exact .pure h
  | some offset =>
    obtain ⟨passed, rest, rfl, rfl⟩ := offsetOf?_eq_some hoffset
    refine .bind ⟨(), _, rfl, .pure (h.moveTo ?_)⟩
    rw [hpos, hline]
    exact isBoundary_add before passed _

theorem backUp (h : cursor.OnBoundaries line) (n : Nat) : Stays (Scan.backUp n) line cursor := by
  obtain rfl := h.line_eq
  obtain ⟨_, _, hcounts⟩ := backUp_counts h.pos h.lineStart
  obtain ⟨offset, _, hoffset, _, _, hrun⟩ := hcounts n
  exact ⟨(), _, hrun, h.moveTo hoffset⟩

theorem column (h : cursor.OnBoundaries line) : Stays Scan.column line cursor :=
  ⟨_, _, rfl, h.recallColumn⟩

/-! ## Matching -/

theorem matchText (h : cursor.OnBoundaries line) (wanted : List Char) (consume : Bool) :
    Stays (Scan.matchText wanted consume) line cursor := by
  refine .bind (.rest h fun before after hline hpos ↦ ?_)
  split
  · rename_i hwanted
    obtain ⟨rest, rfl⟩ := List.isPrefixOf_iff_prefix.1 hwanted
    exact advance_if h hline hpos consume true
  · exact .pure h

/-- As many characters are taken as were compared, so the cursor stays on boundaries. -/
theorem matchTextIgnoringCase (h : cursor.OnBoundaries line) (wanted : List Char)
    (consume : Bool) : Stays (Scan.matchTextIgnoringCase wanted consume) line cursor := by
  refine .bind (.rest h fun before after hline hpos ↦ ?_)
  dsimp only
  split
  · rw [← List.take_append_drop wanted.length after] at hline
    exact advance_if h hline hpos consume true
  · exact .pure h

theorem matchPattern (h : cursor.OnBoundaries line) (pattern : Pattern) (consume : Bool) :
    Stays (Scan.matchPattern pattern consume) line cursor := by
  refine .bind (.rest h fun before after hline hpos ↦ ?_)
  cases hmatch : pattern.match? after with
  | none => exact .pure h
  | some found =>
    obtain ⟨rest, rfl, _⟩ := Pattern.match?_text hmatch
    exact advance_if h hline hpos consume (some found)

end Stays

/-! ## Hiding and looking -/

/-- The hidden part grows to a boundary, or to the end of the line. -/
theorem hiddenAfter_eq (h : cursor.OnBoundaries line) (n : Nat) :
    ∃ boundary, Scan.hiddenAfter n cursor = .ok (boundary, cursor) ∧ IsBoundary line boundary := by
  obtain ⟨before, visible, hline, hstart⟩ := h.lineStart
  refine ⟨_, hiddenAfter_of_append (h.line_eq.trans hline) hstart.symm n, ?_⟩
  rw [hline, ← List.take_append_drop n visible]
  simpa using isBoundary_add before (visible.take n) (visible.drop n)

/-- A token can be looked at unless it begins behind the cursor. -/
theorem current_cases (h : cursor.OnBoundaries line) :
    (cursor.start ≤ cursor.pos ∧ ∃ token, Scan.current cursor = .ok (token, cursor)) ∨
      (cursor.pos < cursor.start ∧ ∃ fault, Scan.current cursor = .error fault) := by
  rw [current_apply, h.line_eq]
  by_cases hle : cursor.start ≤ cursor.pos
  · obtain ⟨before, token, after, hline, hstart, hpos⟩ := h.start.exists_middle h.pos hle
    refine .inl ⟨hle, token, ?_⟩
    rw [← hpos, ← hstart, hline, slice_append, ok_bind]
  · have hguard : (guard (cursor.start ≤ cursor.pos) : Option Unit) = none := if_neg hle
    refine .inr ⟨Nat.not_le.1 hle, ⟨cursor.start, cursor.pos⟩, ?_⟩
    rw [slice, slice?, hguard]
    rfl

end Scan

/-! ## Programs -/

mutual

/-- The action scans; it does not set a place of the cursor by hand. -/
def Action.scans : Action → Bool
  | .setPos _ => false
  | .setStart _ => false
  | .hide _ body _ => allScan body
  | _ => true

def allScan : List Action → Bool
  | [] => true
  | action :: program => action.scans && allScan program

end

/-- In a run of the program the action is performed at a cursor, itself or in a nested program. -/
inductive Performs : List Action → Cursor → Action → Cursor → Prop where
  | first {action : Action} {program : List Action} {cursor : Cursor} :
      Performs (action :: program) cursor action cursor
  | later {action other : Action} {program : List Action} {cursor reached : Cursor}
      (hrest : Performs program (action.run cursor).2 other reached) :
      Performs (action :: program) cursor other reached
  | inside {n boundary : Nat} {body program : List Action} {givesUp : Bool} {other : Action}
      {cursor reached : Cursor} (hhide : Scan.hiddenAfter n cursor = .ok (boundary, cursor))
      (hbody : Performs body { cursor with lineStart := boundary } other reached) :
      Performs (.hide n body givesUp :: program) cursor other reached

/-- The action leaves the cursor on boundaries, and asks for a bad slice only to look at a token
that begins behind the cursor. -/
def Behaves (line : Line) (action : Action) (cursor : Cursor) : Prop :=
  (action.run cursor).2.OnBoundaries line ∧
    ((action.run cursor).1 = .badSlice ↔ action = .current ∧ cursor.pos < cursor.start)

variable {line : Line} {cursor : Cursor}

theorem Scan.attempt_map_ok {α : Type} {op : Scan α} (answer : α → Answer) {a : α}
    {reached : Cursor} (hok : op cursor = .ok (a, reached)) :
    Scan.attempt (answer <$> op) cursor = (answer a, reached) := by
  have hmap : (answer <$> op).run cursor = .ok (answer a, reached) := by
    change (op cursor >>= fun found ↦ .ok (answer found.1, found.2)) = _
    rw [hok, ok_bind]
  rw [Scan.attempt, hmap]

theorem Scan.attempt_map_error {α : Type} {op : Scan α} (answer : α → Answer) {fault : BadSlice}
    (herror : op cursor = .error fault) :
    Scan.attempt (answer <$> op) cursor = (.badSlice, cursor) := by
  have hmap : (answer <$> op).run cursor = .error fault := by
    change (op cursor >>= fun found ↦ .ok (answer found.1, found.2)) = _
    rw [herror, error_bind]
  rw [Scan.attempt, hmap]

/-- A nested program runs with more of the line hidden. -/
theorem Action.run_hide {n boundary : Nat} {cursor other : Cursor}
    (hboundary : Scan.hiddenAfter n cursor = .ok (boundary, other)) (body : List Action)
    (givesUp : Bool) :
    (Action.hide n body givesUp).run cursor =
      (.nested (runActions body { cursor with lineStart := boundary }).1 givesUp,
        { (runActions body { cursor with lineStart := boundary }).2 with
          lineStart := cursor.lineStart }) := by
  have hrun : (Scan.hiddenAfter n).run cursor = .ok (boundary, other) := hboundary
  rw [Action.run, hrun]

theorem behaves_of_attempt {α : Type} {action : Action} {op : Scan α} (answer : α → Answer)
    (hrun : action.run cursor = Scan.attempt (answer <$> op) cursor)
    (hop : Scan.Stays op line cursor) (hanswer : ∀ a, answer a ≠ .badSlice)
    (haction : action ≠ .current) : Behaves line action cursor := by
  obtain ⟨a, reached, hok, hreached⟩ := hop
  rw [Behaves, hrun, Scan.attempt_map_ok answer hok]
  exact ⟨hreached, iff_of_false (hanswer a) fun h ↦ haction h.1⟩

/-- A look at the token fails exactly if the token begins behind the cursor. -/
theorem behaves_current (h : cursor.OnBoundaries line) : Behaves line .current cursor := by
  have hrun : Action.current.run cursor = Scan.attempt (Answer.text <$> Scan.current) cursor := rfl
  rw [Behaves, hrun]
  rcases current_cases h with ⟨hle, token, hok⟩ | ⟨hlt, fault, herror⟩
  · rw [Scan.attempt_map_ok Answer.text hok]
    exact ⟨h, iff_of_false nofun fun hbehind ↦ Nat.not_lt.2 hle hbehind.2⟩
  · rw [Scan.attempt_map_error Answer.text herror]
    exact ⟨h, iff_of_true rfl ⟨rfl, hlt⟩⟩

mutual

/-- Every action that scans leaves the places of the cursor on boundaries. -/
theorem Action.behaves (action : Action) (haction : action.scans = true) {cursor : Cursor}
    (h : cursor.OnBoundaries line) : Behaves line action cursor := by
  match action with
  | .peek => exact behaves_of_attempt .character rfl (.peek h) nofun nofun
  | .next => exact behaves_of_attempt .character rfl (.eat h _) nofun nofun
  | .rest => exact behaves_of_attempt .text rfl (.rest h) nofun nofun
  | .current => exact behaves_current h
  | .describe => exact ⟨h, iff_of_false nofun nofun⟩
  | .beginToken => exact ⟨h.beginToken, iff_of_false nofun nofun⟩
  | .skipToEnd => exact behaves_of_attempt (fun _ ↦ .done) rfl (.skipToEnd h) nofun nofun
  | .eat accepts => exact behaves_of_attempt .character rfl (.eat h accepts) nofun nofun
  | .eatWhile accepts => exact behaves_of_attempt .flag rfl (.eatWhile h accepts) nofun nofun
  | .eatSpace => exact behaves_of_attempt .flag rfl (.eatWhile h isSpace) nofun nofun
  | .skipTo c => exact behaves_of_attempt .flag rfl (.skipTo h c) nofun nofun
  | .backUp n => exact behaves_of_attempt (fun _ ↦ .done) rfl (.backUp h n) nofun nofun
  | .column => exact behaves_of_attempt .number rfl (.column h) nofun nofun
  | .indentation => exact ⟨h, iff_of_false nofun nofun⟩
  | .matchText wanted consume true =>
    exact behaves_of_attempt .flag rfl (.matchTextIgnoringCase h wanted consume) nofun nofun
  | .matchText wanted consume false =>
    exact behaves_of_attempt .flag rfl (.matchText h wanted consume) nofun nofun
  | .matchPattern pattern consume =>
    exact behaves_of_attempt .captures rfl (.matchPattern h pattern consume) nofun nofun
  | .setPos _ => cases haction
  | .setStart _ => cases haction
  | .hide n body givesUp =>
    obtain ⟨boundary, hboundary, hhidden⟩ := hiddenAfter_eq h n
    have hbody := runActions_onBoundaries body haction (h.hideTo hhidden)
    rw [Behaves, Action.run_hide hboundary]
    exact ⟨hbody.hideTo h.lineStart, iff_of_false nofun nofun⟩

/-- So does a program of such actions. -/
theorem runActions_onBoundaries (program : List Action) (hprogram : allScan program = true)
    {cursor : Cursor} (h : cursor.OnBoundaries line) :
    (runActions program cursor).2.OnBoundaries line := by
  match program with
  | [] => exact h
  | action :: program =>
    obtain ⟨haction, hrest⟩ := Bool.and_eq_true_iff.1 hprogram
    exact runActions_onBoundaries program hrest (action.behaves haction h).1

end

/-- What is performed on the way scans, from a cursor on boundaries. -/
theorem Performs.onBoundaries {program : List Action} {cursor reached : Cursor} {action : Action}
    (hperforms : Performs program cursor action reached) (hprogram : allScan program = true)
    (h : cursor.OnBoundaries line) : action.scans = true ∧ reached.OnBoundaries line := by
  induction hperforms with
  | first => exact ⟨(Bool.and_eq_true_iff.1 hprogram).1, h⟩
  | later _ ih =>
    obtain ⟨haction, hrest⟩ := Bool.and_eq_true_iff.1 hprogram
    exact ih hrest (Action.behaves _ haction h).1
  | @inside n boundary body program givesUp other cursor reached hhide _ ih =>
    obtain ⟨hidden, hok, hhidden⟩ := hiddenAfter_eq h n
    cases hhide.symm.trans hok
    exact ih (Bool.and_eq_true_iff.1 hprogram).1 (h.hideTo hhidden)

/-- Whether a nested program finishes or gives up, the hidden part is what it was. -/
theorem lineStart_run_hide (n : Nat) (body : List Action) (givesUp : Bool) (cursor : Cursor) :
    ((Action.hide n body givesUp).run cursor).2.lineStart = cursor.lineStart := by
  rw [Action.run]
  split <;> rfl

end LineLexer
