import LineLexer.Proofs.Scan.Boundaries
import LineLexer.Proofs.Text.Column

/-!
# The remembered column

A cursor remembers the column that was asked for last, and counts on from it or afresh. What it
remembers is the column of a boundary of the line, whatever was hidden when it was found and
wherever the cursor has been since, so the column of a token is always the one counted directly.
-/

namespace LineLexer

open Outcome Scan

/-! ## Actions that move the cursor -/

namespace Scan

variable {α β : Type}

/-- The action moves the cursor and changes nothing else. -/
def OnlyMovesCursor (action : Scan α) : Prop :=
  ∀ ⦃cursor a reached⦄, action cursor = .ok (a, reached) →
    reached = { cursor with pos := reached.pos }

namespace OnlyMovesCursor

theorem pure (a : α) : OnlyMovesCursor (pure a) := by
  rintro cursor _ _ ⟨⟩
  rfl

theorem bind {action : Scan β} {next : β → Scan α} (h : OnlyMovesCursor action)
    (hnext : ∀ b, OnlyMovesCursor (next b)) : OnlyMovesCursor (action >>= next) := by
  intro cursor a reached hrun
  rw [bind_apply, bind_eq_ok_iff] at hrun
  obtain ⟨⟨b, middle⟩, haction, hrun⟩ := hrun
  rw [hnext b hrun, h haction]

theorem modifyPos (f : Cursor → Nat) :
    OnlyMovesCursor (modify fun cursor ↦ { cursor with pos := f cursor }) := by
  rintro cursor _ _ ⟨⟩
  rfl

/-- To look at the cursor leaves it alone. -/
theorem look (f : Cursor → Except BadSlice α) :
    OnlyMovesCursor (do
      let cursor ← get
      f cursor) := by
  intro cursor a reached hrun
  rw [bind_apply, get_apply, ok_bind, lift_apply, bind_eq_ok_iff] at hrun
  obtain ⟨_, _, hrun⟩ := hrun
  cases hrun
  rfl

theorem rest : OnlyMovesCursor Scan.rest := look fun cursor ↦ sliceFrom cursor.line cursor.pos

theorem current : OnlyMovesCursor Scan.current :=
  look fun cursor ↦ slice cursor.line cursor.start cursor.pos

theorem advance (text : List Char) : OnlyMovesCursor (Scan.advance text) :=
  modifyPos fun cursor ↦ cursor.pos + byteLength text

theorem advance_if (consume : Bool) (text : List Char) (a : α) :
    OnlyMovesCursor (do
      if consume then Scan.advance text
      return a) := by
  cases consume with
  | false => exact pure a
  | true => exact .bind (advance text) fun _ ↦ pure a

theorem skipToEnd : OnlyMovesCursor Scan.skipToEnd := modifyPos fun cursor ↦ byteLength cursor.line

theorem peek : OnlyMovesCursor Scan.peek := .bind rest fun _ ↦ pure _

theorem eat (accepts : Char → Bool) : OnlyMovesCursor (Scan.eat accepts) := by
  refine .bind peek fun found ↦ ?_
  cases found with
  | none => exact pure none
  | some c =>
    dsimp only
    split
    · exact .bind (advance [c]) fun _ ↦ pure (some c)
    · exact pure none

theorem eatWhile (accepts : Char → Bool) : OnlyMovesCursor (Scan.eatWhile accepts) :=
  .bind rest fun _ ↦ .bind (advance _) fun _ ↦ pure _

theorem skipTo (c : Char) : OnlyMovesCursor (Scan.skipTo c) := by
  refine .bind rest fun ahead ↦ ?_
  split
  · exact pure false
  · exact .bind (modifyPos fun cursor ↦ cursor.pos + _) fun _ ↦ pure true

theorem backUp (n : Nat) : OnlyMovesCursor (Scan.backUp n) := by
  intro cursor a reached hrun
  rw [backUp_apply, bind_eq_ok_iff] at hrun
  obtain ⟨_, _, hreached⟩ := hrun
  cases hreached
  rfl

theorem matchText (wanted : List Char) (consume : Bool) :
    OnlyMovesCursor (Scan.matchText wanted consume) := by
  refine .bind rest fun ahead ↦ ?_
  split
  · exact advance_if consume wanted true
  · exact pure false

theorem matchTextIgnoringCase (wanted : List Char) (consume : Bool) :
    OnlyMovesCursor (Scan.matchTextIgnoringCase wanted consume) := by
  refine .bind rest fun ahead ↦ ?_
  dsimp only
  split
  · exact advance_if consume _ true
  · exact pure false

theorem matchPattern (pattern : Pattern) (consume : Bool) :
    OnlyMovesCursor (Scan.matchPattern pattern consume) := by
  refine .bind rest fun ahead ↦ ?_
  split
  · exact pure none
  · exact advance_if consume _ _

end OnlyMovesCursor

/-- A caught action moves the cursor and nothing else, whether it fails or not. -/
theorem attempt_pos (answer : α → Answer) {op : Scan α} (hop : OnlyMovesCursor op)
    (cursor : Cursor) :
    (attempt (answer <$> op) cursor).2 =
      { cursor with pos := (attempt (answer <$> op) cursor).2.pos } := by
  cases hrun : op cursor with
  | error fault =>
    rw [attempt_map_error answer hrun]
  | ok found =>
    rw [attempt_map_ok answer hrun]
    exact hop hrun

end Scan

/-- The action asks for no column and runs no nested program. -/
def Action.isPlain : Action → Bool
  | .column => false
  | .indentation => false
  | .hide _ _ _ => false
  | _ => true

/-- A plain action moves the cursor and the start of its token, and changes nothing else. -/
theorem Action.run_plain {action : Action} (h : action.isPlain = true) (cursor : Cursor) :
    (action.run cursor).2 =
      { cursor with pos := (action.run cursor).2.pos, start := (action.run cursor).2.start } := by
  have hmoves {α : Type} {op : Scan α} (answer : α → Answer) (hop : OnlyMovesCursor op)
      (hrun : action.run cursor = attempt (answer <$> op) cursor) :
      (action.run cursor).2 = { cursor with
        pos := (action.run cursor).2.pos, start := (action.run cursor).2.start } := by
    rw [hrun, attempt_pos answer hop]
  match action with
  | .peek => exact hmoves .character .peek rfl
  | .next => exact hmoves .character (.eat _) rfl
  | .rest => exact hmoves .text .rest rfl
  | .current => exact hmoves .text .current rfl
  | .describe | .beginToken | .setPos _ | .setStart _ => rfl
  | .skipToEnd => exact hmoves (fun _ ↦ .done) .skipToEnd rfl
  | .eat accepts => exact hmoves .character (.eat accepts) rfl
  | .eatWhile accepts => exact hmoves .flag (.eatWhile accepts) rfl
  | .eatSpace => exact hmoves .flag (.eatWhile isSpace) rfl
  | .skipTo c => exact hmoves .flag (.skipTo c) rfl
  | .backUp n => exact hmoves (fun _ ↦ .done) (.backUp n) rfl
  | .matchText wanted consume true => exact hmoves .flag (.matchTextIgnoringCase wanted consume) rfl
  | .matchText wanted consume false => exact hmoves .flag (.matchText wanted consume) rfl
  | .matchPattern pattern consume => exact hmoves .captures (.matchPattern pattern consume) rfl

/-! ## What is remembered -/

/-- The column of the hidden part is counted from the start of the line. -/
theorem Cursor.hiddenColumn_eq (cursor : Cursor) :
    cursor.hiddenColumn = countColumn cursor.line (some cursor.lineStart) cursor.tabSize := by
  unfold Cursor.hiddenColumn
  split
  · rename_i hzero
    rw [hzero, countColumn_zero]
  · rfl

/-- A cursor on boundaries of its line, with tab stops as given, that remembers the column of one
more boundary. -/
structure Cursor.Remembers (line : Line) (tabSize : Nat) (cursor : Cursor) : Prop
    extends cursor.OnBoundaries line where
  tabSize_eq : cursor.tabSize = tabSize
  knownPos : IsBoundary line cursor.knownPos
  knownColumn : cursor.knownColumn = countColumn line (some cursor.knownPos) tabSize

namespace Cursor.Remembers

variable {line : Line} {tabSize : Nat} {cursor : Cursor}

theorem ofLine (line : Line) (tabSize : Nat) :
    (Cursor.ofLine line tabSize).Remembers line (Cursor.ofLine line tabSize).tabSize where
  toOnBoundaries := .ofLine line tabSize
  tabSize_eq := rfl
  knownPos := isBoundary_zero line
  knownColumn := (countColumn_zero _ line).symm

/-- The places of the cursor may change, as long as they are boundaries. -/
theorem withPlaces (h : cursor.Remembers line tabSize) {pos start lineStart : Nat}
    (hplaces : Cursor.OnBoundaries line { cursor with pos, start, lineStart }) :
    Cursor.Remembers line tabSize { cursor with pos, start, lineStart } :=
  ⟨hplaces, h.tabSize_eq, h.knownPos, h.knownColumn⟩

/-- Whichever way the column is brought up to the token, it is the one counted directly. -/
theorem recallColumn_eq (h : cursor.Remembers line tabSize) :
    cursor.recallColumn = { cursor with
      knownPos := cursor.start
      knownColumn := countColumn line (some cursor.start) tabSize } := by
  unfold Cursor.recallColumn
  rcases Nat.lt_trichotomy cursor.knownPos cursor.start with hlt | heq | hgt
  · rw [if_pos hlt, h.line_eq, h.tabSize_eq, h.knownColumn,
      countColumnFrom_countColumn tabSize h.knownPos h.start (Nat.le_of_lt hlt)]
  · obtain ⟨_, _, _, start, _, knownPos, knownColumn⟩ := cursor
    obtain rfl : knownPos = start := heq
    obtain rfl : knownColumn = countColumn line (some knownPos) tabSize := h.knownColumn
    rw [if_neg (Nat.lt_irrefl _), if_neg (Nat.lt_irrefl _)]
  · rw [if_neg (by omega), if_pos hgt, h.line_eq, h.tabSize_eq]

/-- Bringing the remembered column up to the token keeps it right. -/
theorem recallColumn (h : cursor.Remembers line tabSize) :
    cursor.recallColumn.Remembers line tabSize := by
  rw [h.recallColumn_eq]
  exact ⟨⟨h.line_eq, h.pos, h.start, h.lineStart⟩, h.tabSize_eq, h.start, rfl⟩

/-- The column is counted from the start of the line, up to the token and past the hidden part. -/
theorem column_eq (h : cursor.Remembers line tabSize) :
    Action.column.run cursor =
      (.number (countColumn line (some cursor.start) tabSize -
          countColumn line (some cursor.lineStart) tabSize),
        { cursor with
          knownPos := cursor.start
          knownColumn := countColumn line (some cursor.start) tabSize }) := by
  have hrun : Action.column.run cursor =
      (.number (cursor.recallColumn.knownColumn - cursor.recallColumn.hiddenColumn),
        cursor.recallColumn) := rfl
  rw [hrun, Cursor.hiddenColumn_eq, h.recallColumn_eq, h.line_eq, h.tabSize_eq]

end Cursor.Remembers

/-! ## Programs -/

mutual

/-- The action sets the places of the cursor to boundaries of the line only. -/
def Action.SetsBoundaries (line : Line) : Action → Prop
  | .setPos offset => IsBoundary line offset
  | .setStart offset => IsBoundary line offset
  | .hide _ body _ => AllSetBoundaries line body
  | _ => True

def AllSetBoundaries (line : Line) : List Action → Prop
  | [] => True
  | action :: program => action.SetsBoundaries line ∧ AllSetBoundaries line program

end

variable {line : Line} {tabSize : Nat} {cursor : Cursor}

/-- A plain action changes nothing of what is remembered. -/
theorem Cursor.Remembers.run_plain (h : cursor.Remembers line tabSize) {action : Action}
    (hplain : action.isPlain = true) (hplaces : (action.run cursor).2.OnBoundaries line) :
    (action.run cursor).2.Remembers line tabSize := by
  rw [Action.run_plain hplain] at hplaces ⊢
  exact h.withPlaces hplaces

mutual

/-- Every action keeps what is remembered right. -/
theorem Action.remembers (action : Action) (haction : action.SetsBoundaries line) {cursor : Cursor}
    (h : cursor.Remembers line tabSize) : (action.run cursor).2.Remembers line tabSize := by
  have hplaces (hscans : action.scans = true) := (action.behaves hscans h.toOnBoundaries).1
  match action with
  | .column => exact h.recallColumn
  | .indentation => exact h
  | .setPos _ => exact h.withPlaces (h.moveTo haction)
  | .setStart _ => exact h.withPlaces ⟨h.line_eq, h.pos, haction, h.lineStart⟩
  | .hide n body givesUp =>
    obtain ⟨boundary, hboundary, hhidden⟩ := hiddenAfter_eq h.toOnBoundaries n
    have hbody := runActions_remembers body haction (h.withPlaces (h.hideTo hhidden))
    rw [Action.run_hide hboundary]
    exact hbody.withPlaces (hbody.hideTo h.lineStart)
  | .peek | .next | .rest | .current | .describe | .beginToken | .skipToEnd | .eat _ | .eatWhile _
  | .eatSpace | .skipTo _ | .backUp _ | .matchText _ _ _ | .matchPattern _ _ =>
    exact h.run_plain rfl (hplaces rfl)

/-- What is remembered stays right through a program. -/
theorem runActions_remembers (program : List Action) (hprogram : AllSetBoundaries line program)
    {cursor : Cursor} (h : cursor.Remembers line tabSize) :
    (runActions program cursor).2.Remembers line tabSize := by
  match program with
  | [] => exact h
  | action :: program =>
    exact runActions_remembers program hprogram.2 (action.remembers hprogram.1 h)

end

/-- What is remembered is right wherever an action is performed. -/
theorem Performs.remembers {program : List Action} {reached : Cursor} {action : Action}
    (hperforms : Performs program cursor action reached) (hprogram : AllSetBoundaries line program)
    (h : cursor.Remembers line tabSize) : reached.Remembers line tabSize := by
  induction hperforms with
  | first => exact h
  | later _ ih => exact ih hprogram.2 (Action.remembers _ hprogram.1 h)
  | @inside n boundary body program givesUp other cursor reached hhide _ ih =>
    obtain ⟨hidden, hok, hhidden⟩ := hiddenAfter_eq h.toOnBoundaries n
    cases hhide.symm.trans hok
    exact ih hprogram.1 (h.withPlaces (h.hideTo hhidden))

/-- Wherever a program asks for a column, the answer is the column of the token, counted from the
start of the line, less that of the end of the hidden part. A call changes what is remembered and
nothing else, and a cursor that remembers nothing gives the same answer. -/
theorem column_eq_counted (line : Line) (tabSize : Nat) (program : List Action)
    (hprogram : AllSetBoundaries line program) (cursor : Cursor)
    (hcursor : Performs program (.ofLine line tabSize) .column cursor) :
    cursor.tabSize = (Cursor.ofLine line tabSize).tabSize ∧
      Action.column.run cursor =
        (.number (countColumn line (some cursor.start) cursor.tabSize -
            countColumn line (some cursor.lineStart) cursor.tabSize),
          { cursor with
            knownPos := cursor.start
            knownColumn := countColumn line (some cursor.start) cursor.tabSize }) ∧
      (Action.column.run { cursor with knownPos := 0, knownColumn := 0 }).1 =
        (Action.column.run cursor).1 := by
  have h := hcursor.remembers hprogram (.ofLine line tabSize)
  have hfresh : Cursor.Remembers line (Cursor.ofLine line tabSize).tabSize
      { cursor with knownPos := 0, knownColumn := 0 } :=
    ⟨⟨h.line_eq, h.pos, h.start, h.lineStart⟩, h.tabSize_eq, isBoundary_zero line,
      (countColumn_zero _ line).symm⟩
  rw [h.column_eq, hfresh.column_eq, h.tabSize_eq]
  exact ⟨rfl, rfl, rfl⟩

/-- Asks for columns at the end of the line, before a hidden part, inside it, and at the end again. -/
def Sample.askingBack : List Action :=
  [.setStart 7, .column, .hide 2 [.setStart 2, .column, .setStart 7, .column] true, .column]

/-- The token begins in the hidden part, and then behind it. -/
theorem column_eq_counted_hidden :
    AllSetBoundaries ['é', '\t', '→', 'x'] Sample.askingBack ∧
      ∃ cursor,
        Performs Sample.askingBack (.ofLine ['é', '\t', '→', 'x'] 4) .column cursor ∧
        cursor.start = 7 ∧ cursor.lineStart = 3 ∧ cursor.knownPos = 2 ∧
        (Action.column.run cursor).1 = .number 2 := by
  have hsecond : IsBoundary ['é', '\t', '→', 'x'] 2 := ⟨['é'], _, rfl, rfl⟩
  have hlast : IsBoundary ['é', '\t', '→', 'x'] 7 := isBoundary_byteLength _
  have hprogram : AllSetBoundaries ['é', '\t', '→', 'x'] Sample.askingBack :=
    ⟨hlast, trivial, ⟨hsecond, trivial, hlast, trivial, trivial⟩, trivial, trivial⟩
  have hcursor : Performs Sample.askingBack (.ofLine ['é', '\t', '→', 'x'] 4) .column
      ⟨['é', '\t', '→', 'x'], 4, 0, 7, 3, 2, 1⟩ :=
    .later (.later (.inside rfl (.later (.later (.later .first)))))
  obtain ⟨_, hcolumn, _⟩ := column_eq_counted _ _ _ hprogram _ hcursor
  exact ⟨hprogram, _, hcursor, rfl, rfl, rfl, by rw [hcolumn]; rfl⟩

end LineLexer
