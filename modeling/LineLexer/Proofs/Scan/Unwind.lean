import LineLexer.Proofs.Scan.Column
import LineLexer.Scan.Unwind

/-!
# Panics keep the places of the cursor

Where nothing catches a panic it ends the program and all nested programs around it. Each of them
gives back the hidden part it was given, so the places of the cursor are boundaries whichever way a
program ends. A program panics because it looks at a token that begins behind the cursor, because a
nested program gives up, or, in a build that checks for overflow, because it asks for a column that
no word holds. What is remembered of a column is then one that a word does hold.
-/

namespace LineLexer

open Outcome Scan

/-! ## Causes of a panic -/

/-- The action asks for a column that no word holds, counted from the start of the line. -/
def Action.Overflows : Action → Cursor → Prop
  | .column, cursor =>
    countColumn? cursor.line (some cursor.start) cursor.tabSize = none ∨
      countColumn? cursor.line (some cursor.lineStart) cursor.tabSize = none
  | .indentation, cursor =>
    countColumn? cursor.line none cursor.tabSize = none ∨
      countColumn? cursor.line (some cursor.lineStart) cursor.tabSize = none
  | _, _ => False

/-- What makes an action panic by itself. -/
inductive Causes (checks : Bool) : Action → Cursor → Panic → Prop where
  | badSlice {cursor : Cursor} (hbehind : cursor.pos < cursor.start) :
      Causes checks .current cursor .badSlice
  | overflow {action : Action} {cursor : Cursor} (hchecks : checks = true)
      (hoverflows : action.Overflows cursor) : Causes checks action cursor .overflow
  | gaveUp {n : Nat} {body : List Action} {cursor : Cursor} :
      Causes checks (.hide n body true) cursor .gaveUp

/-- In a run that ends with the first panic the action is performed at a cursor, itself or in a
nested program. -/
inductive Reaches (checks : Bool) : List Action → Cursor → Action → Cursor → Prop where
  | first {action : Action} {program : List Action} {cursor : Cursor} :
      Reaches checks (action :: program) cursor action cursor
  | later {action other : Action} {program : List Action} {cursor middle reached : Cursor}
      (hrun : action.unwind checks cursor = (none, middle))
      (hrest : Reaches checks program middle other reached) :
      Reaches checks (action :: program) cursor other reached
  | inside {n boundary : Nat} {body program : List Action} {givesUp : Bool} {other : Action}
      {cursor reached : Cursor} (hhide : Scan.hiddenAfter n cursor = .ok (boundary, cursor))
      (hbody : Reaches checks body { cursor with lineStart := boundary } other reached) :
      Reaches checks (.hide n body givesUp :: program) cursor other reached

/-- What is performed in an action is performed in a program that begins with it. -/
theorem Reaches.append_program {checks : Bool} {action other : Action} {cursor reached : Cursor}
    (h : Reaches checks [action] cursor other reached) (program : List Action) :
    Reaches checks (action :: program) cursor other reached := by
  cases h with
  | first => exact .first
  | later _ hrest => cases hrest
  | inside hhide hbody => exact .inside hhide hbody

/-! ## What is remembered where overflow is checked -/

theorem Cursor.hiddenColumn?_eq (cursor : Cursor) :
    cursor.hiddenColumn? = countColumn? cursor.line (some cursor.lineStart) cursor.tabSize := by
  unfold Cursor.hiddenColumn?
  split
  · rename_i hzero
    rw [hzero, countColumn?_zero]
  · rfl

/-- A cursor that remembers a column, which a word holds if overflow is checked. -/
structure Cursor.Knows (checks : Bool) (line : Line) (tabSize : Nat) (cursor : Cursor) : Prop
    extends cursor.Remembers line tabSize where
  fits : checks = true → (countColumn? line (some cursor.knownPos) tabSize).isSome

namespace Cursor.Knows

variable {checks : Bool} {line : Line} {tabSize : Nat} {cursor : Cursor}

theorem ofLine (checks : Bool) (line : Line) (tabSize : Nat) :
    (Cursor.ofLine line tabSize).Knows checks line (Cursor.ofLine line tabSize).tabSize where
  toRemembers := .ofLine line tabSize
  fits _ := by
    rw [show (Cursor.ofLine line tabSize).knownPos = 0 from rfl, countColumn?_zero]
    rfl

theorem withPlaces (h : cursor.Knows checks line tabSize) {pos start lineStart : Nat}
    (hplaces : Cursor.OnBoundaries line { cursor with pos, start, lineStart }) :
    Cursor.Knows checks line tabSize { cursor with pos, start, lineStart } :=
  ⟨h.toRemembers.withPlaces hplaces, h.fits⟩

/-- A word holds what is remembered. -/
theorem known_eq (h : cursor.Knows true line tabSize) :
    countColumn? line (some cursor.knownPos) tabSize = some cursor.knownColumn := by
  obtain ⟨column, hcolumn⟩ := Option.isSome_iff_exists.1 (h.fits rfl)
  rw [hcolumn, h.knownColumn, countColumn_of_checked hcolumn]

/-- Bringing the remembered column up to the token overflows exactly if counting afresh does. -/
theorem recallColumn?_eq (h : cursor.Knows true line tabSize) :
    cursor.recallColumn? = (countColumn? line (some cursor.start) tabSize).map fun column ↦
      { cursor with knownPos := cursor.start, knownColumn := column } := by
  have hknown := h.known_eq
  unfold Cursor.recallColumn?
  rcases Nat.lt_trichotomy cursor.knownPos cursor.start with hlt | heq | hgt
  · have hresume := countColumnFrom?_countColumn? tabSize h.knownPos h.start (Nat.le_of_lt hlt)
    rw [hknown, Option.bind_some] at hresume
    rw [if_pos hlt, h.line_eq, h.tabSize_eq, hresume]
    cases countColumn? line (some cursor.start) tabSize <;> rfl
  · obtain ⟨_, _, _, start, _, knownPos, knownColumn⟩ := cursor
    obtain rfl : knownPos = start := heq
    have hfound : countColumn? line (some knownPos) tabSize = some knownColumn := hknown
    rw [if_neg (Nat.lt_irrefl _), if_neg (Nat.lt_irrefl _), hfound]
    rfl
  · rw [if_neg (by omega), if_pos hgt, h.line_eq, h.tabSize_eq]
    cases countColumn? line (some cursor.start) tabSize <;> rfl

/-- The remembered column is brought up to the token, whether the hidden part overflows or not. -/
theorem checkColumn_eq (h : cursor.Knows true line tabSize) :
    cursor.checkColumn = match countColumn? line (some cursor.start) tabSize with
      | none => (some .overflow, cursor)
      | some column =>
        (if (countColumn? line (some cursor.lineStart) tabSize).isNone then some .overflow else none,
          { cursor with knownPos := cursor.start, knownColumn := column }) := by
  rw [Cursor.checkColumn, h.recallColumn?_eq]
  cases countColumn? line (some cursor.start) tabSize with
  | none => rfl
  | some column =>
    rw [Option.map_some]
    dsimp only
    rw [Cursor.hiddenColumn?_eq, h.line_eq, h.tabSize_eq]

/-- What is known after asking for the column of the token. -/
theorem atToken (h : cursor.Knows checks line tabSize)
    (hfits : checks = true → (countColumn? line (some cursor.start) tabSize).isSome) :
    Cursor.Knows checks line tabSize { cursor with
      knownPos := cursor.start
      knownColumn := countColumn line (some cursor.start) tabSize } :=
  ⟨⟨⟨h.line_eq, h.pos, h.start, h.lineStart⟩, h.tabSize_eq, h.start, rfl⟩, hfits⟩

/-- Asking for a column keeps what is known, also where it overflows. -/
theorem checkColumn (h : cursor.Knows true line tabSize) :
    cursor.checkColumn.2.Knows true line tabSize ∧
      cursor.checkColumn.2.lineStart = cursor.lineStart := by
  rw [h.checkColumn_eq]
  cases hcolumn : countColumn? line (some cursor.start) tabSize with
  | none => exact ⟨h, rfl⟩
  | some column =>
    obtain rfl := countColumn_of_checked hcolumn
    exact ⟨h.atToken fun _ ↦ by rw [hcolumn]; rfl, rfl⟩

end Cursor.Knows

/-! ## Actions -/

theorem Answer.panic?_eq_some_iff {answer : Answer} {panic : Panic} :
    answer.panic? = some panic ↔ answer = .badSlice ∧ panic = .badSlice := by
  cases answer <;> simp [Answer.panic?, eq_comm]

/-- An action without columns and nested programs panics where it fails. -/
theorem Action.unwind_plain {action : Action} (h : action.isPlain = true) (checks : Bool)
    (cursor : Cursor) :
    action.unwind checks cursor = ((action.run cursor).1.panic?, (action.run cursor).2) := by
  cases action <;> first | rfl | cases h

/-- A nested program runs up to its first panic, and the hidden part is given back. -/
theorem Action.unwind_hide {n boundary : Nat} {cursor other : Cursor}
    (hboundary : Scan.hiddenAfter n cursor = .ok (boundary, other)) (checks : Bool)
    (body : List Action) (givesUp : Bool) :
    (Action.hide n body givesUp).unwind checks cursor =
      ((unwindActions checks body { cursor with lineStart := boundary }).1.or
          (if givesUp then some .gaveUp else none),
        { (unwindActions checks body { cursor with lineStart := boundary }).2 with
          lineStart := cursor.lineStart }) := by
  have hrun : (Scan.hiddenAfter n).run cursor = .ok (boundary, other) := hboundary
  rw [Action.unwind, hrun]

variable {checks : Bool} {line : Line} {tabSize : Nat} {cursor : Cursor}

mutual

/-- Whether it panics or not, an action leaves the cursor on boundaries and the hidden part as it
was. -/
theorem Action.unwind_knows (action : Action) (haction : action.scans = true) {cursor : Cursor}
    (h : cursor.Knows checks line tabSize) :
    (action.unwind checks cursor).2.Knows checks line tabSize ∧
      (action.unwind checks cursor).2.lineStart = cursor.lineStart := by
  -- Most actions do the same whether panics are caught or not.
  have hplain (hplain : action.isPlain = true) :
      (action.unwind checks cursor).2.Knows checks line tabSize ∧
        (action.unwind checks cursor).2.lineStart = cursor.lineStart := by
    have hplaces := (action.behaves haction h.toOnBoundaries).1
    rw [Action.unwind_plain hplain]
    rw [Action.run_plain hplain] at hplaces ⊢
    exact ⟨h.withPlaces hplaces, rfl⟩
  match action with
  | .column =>
    cases checks with
    | true => exact h.checkColumn
    | false =>
      rw [Action.unwind, if_neg Bool.false_ne_true, h.recallColumn_eq]
      exact ⟨h.atToken fun hchecks ↦ absurd hchecks Bool.false_ne_true, rfl⟩
  | .indentation => exact ⟨h, rfl⟩
  | .hide n body givesUp =>
    obtain ⟨boundary, hboundary, hhidden⟩ := hiddenAfter_eq h.toOnBoundaries n
    obtain ⟨hbody, _⟩ := unwindActions_knows body haction (h.withPlaces (h.hideTo hhidden))
    rw [Action.unwind_hide hboundary]
    exact ⟨hbody.withPlaces (hbody.hideTo h.lineStart), rfl⟩
  | .setPos _ | .setStart _ => cases haction
  | .peek | .next | .rest | .current | .describe | .beginToken | .skipToEnd | .eat _ | .eatWhile _
  | .eatSpace | .skipTo _ | .backUp _ | .matchText _ _ _ | .matchPattern _ _ => exact hplain rfl

/-- Whether it panics or not, a program leaves the cursor on boundaries and the hidden part as it
was. -/
theorem unwindActions_knows (program : List Action) (hprogram : allScan program = true)
    {cursor : Cursor} (h : cursor.Knows checks line tabSize) :
    (unwindActions checks program cursor).2.Knows checks line tabSize ∧
      (unwindActions checks program cursor).2.lineStart = cursor.lineStart := by
  match program with
  | [] => exact ⟨h, rfl⟩
  | action :: program =>
    obtain ⟨haction, hrest⟩ := Bool.and_eq_true_iff.1 hprogram
    obtain ⟨hreached, hstart⟩ := action.unwind_knows haction h
    rw [unwindActions]
    split
    · rename_i reached hrun
      rw [hrun] at hreached hstart
      obtain ⟨hlast, hlastStart⟩ := unwindActions_knows program hrest hreached
      exact ⟨hlast, hlastStart.trans hstart⟩
    · rename_i panic reached hrun
      rw [hrun] at hreached hstart
      exact ⟨hreached, hstart⟩

end

/-- What is performed up to the first panic scans, from a cursor on boundaries. -/
theorem Reaches.knows {program : List Action} {reached : Cursor} {action : Action}
    (hreaches : Reaches checks program cursor action reached) (hprogram : allScan program = true)
    (h : cursor.Knows checks line tabSize) :
    action.scans = true ∧ reached.Knows checks line tabSize := by
  -- Along the way to the action, what is known of the cursor is the invariant.
  induction hreaches with
  | first => exact ⟨(Bool.and_eq_true_iff.1 hprogram).1, h⟩
  | later hrun _ ih =>
    obtain ⟨haction, hrest⟩ := Bool.and_eq_true_iff.1 hprogram
    have hmiddle := (Action.unwind_knows _ haction h).1
    rw [hrun] at hmiddle
    exact ih hrest hmiddle
  | @inside n boundary body program givesUp other cursor reached hhide _ ih =>
    obtain ⟨hidden, hok, hhidden⟩ := hiddenAfter_eq h.toOnBoundaries n
    cases hhide.symm.trans hok
    exact ih (Bool.and_eq_true_iff.1 hprogram).1 (h.withPlaces (h.hideTo hhidden))

/-! ## Panics -/

def Action.isFlat : Action → Bool
  | .hide _ _ _ => false
  | _ => true

theorem Action.not_overflows_of_plain {action : Action} (h : action.isPlain = true) :
    ¬ action.Overflows cursor := by
  cases action <;> first | exact id | cases h

theorem Action.panics_plain {action : Action} (hplain : action.isPlain = true)
    (haction : action.scans = true) (h : cursor.OnBoundaries line) (panic : Panic) :
    (action.unwind checks cursor).1 = some panic ↔ Causes checks action cursor panic := by
  rw [Action.unwind_plain hplain, Answer.panic?_eq_some_iff, (action.behaves haction h).2]
  constructor
  · rintro ⟨⟨rfl, hbehind⟩, rfl⟩
    exact .badSlice hbehind
  · intro hcauses
    cases hcauses with
    | badSlice hbehind => exact ⟨⟨rfl, hbehind⟩, rfl⟩
    | overflow _ hoverflows => exact absurd hoverflows (Action.not_overflows_of_plain hplain)
    | gaveUp => cases hplain

/-- The actions that look at columns panic for overflow alone. -/
theorem Action.causes_iff_overflows (action : Action) (hplain : action.isPlain = false)
    (hflat : action.isFlat = true) {panic : Panic} :
    Causes checks action cursor panic ↔
      checks = true ∧ panic = .overflow ∧ action.Overflows cursor := by
  constructor
  · intro hcauses
    cases hcauses with
    | badSlice => cases hplain
    | overflow hchecks hoverflows => exact ⟨hchecks, rfl, hoverflows⟩
    | gaveUp => cases hflat
  · rintro ⟨hchecks, rfl, hoverflows⟩
    exact .overflow hchecks hoverflows

theorem Action.panics_column (h : cursor.Knows checks line tabSize) (panic : Panic) :
    (Action.column.unwind checks cursor).1 = some panic ↔ Causes checks .column cursor panic := by
  rw [Action.column.causes_iff_overflows rfl rfl, Action.Overflows, h.line_eq, h.tabSize_eq,
    Action.unwind]
  cases checks with
  | false => simp
  | true =>
    rw [if_pos rfl, h.checkColumn_eq]
    cases countColumn? line (some cursor.start) tabSize with
    | none => simp [eq_comm]
    | some column => cases countColumn? line (some cursor.lineStart) tabSize <;> simp [eq_comm]

theorem Action.panics_indentation (cursor : Cursor) (panic : Panic) :
    (Action.indentation.unwind checks cursor).1 = some panic ↔
      Causes checks .indentation cursor panic := by
  rw [Action.indentation.causes_iff_overflows rfl rfl, Action.Overflows, Action.unwind,
    Cursor.indentation?, Cursor.hiddenColumn?_eq]
  cases checks with
  | false => simp
  | true =>
    cases countColumn? cursor.line none cursor.tabSize with
    | none => simp [eq_comm]
    | some column =>
      cases countColumn? cursor.line (some cursor.lineStart) cursor.tabSize <;> simp [eq_comm]

/-- By itself an action panics for the named causes only. -/
theorem Action.panics_iff {action : Action} (hflat : action.isFlat = true)
    (haction : action.scans = true) (h : cursor.Knows checks line tabSize) (panic : Panic) :
    (action.unwind checks cursor).1 = some panic ↔ Causes checks action cursor panic := by
  match action with
  | .column => exact Action.panics_column h panic
  | .indentation => exact Action.panics_indentation cursor panic
  | .hide _ _ _ => cases hflat
  | .setPos _ | .setStart _ => cases haction
  | .peek | .next | .rest | .current | .describe | .beginToken | .skipToEnd | .eat _ | .eatWhile _
  | .eatSpace | .skipTo _ | .backUp _ | .matchText _ _ _ | .matchPattern _ _ =>
    exact Action.panics_plain rfl haction h.toOnBoundaries panic

mutual

/-- A panic comes from an action that is performed on the way. -/
theorem Action.exists_cause (action : Action) (haction : action.scans = true) {cursor : Cursor}
    (h : cursor.Knows checks line tabSize) {panic : Panic}
    (hpanic : (action.unwind checks cursor).1 = some panic) :
    ∃ other reached, Reaches checks [action] cursor other reached ∧
      Causes checks other reached panic := by
  match action with
  | .hide n body givesUp =>
    obtain ⟨boundary, hboundary, hhidden⟩ := hiddenAfter_eq h.toOnBoundaries n
    rw [Action.unwind_hide hboundary] at hpanic
    rcases Option.or_eq_some_iff.1 hpanic with hbody | ⟨_, hgivesUp⟩
    · obtain ⟨other, reached, hreaches, hcauses⟩ :=
        unwindActions_exists_cause body haction (h.withPlaces (h.hideTo hhidden)) hbody
      exact ⟨other, reached, .inside hboundary hreaches, hcauses⟩
    · cases givesUp with
      | false => cases hgivesUp
      | true =>
        cases hgivesUp
        exact ⟨_, cursor, .first, .gaveUp⟩
  | .peek | .next | .rest | .current | .describe | .beginToken | .skipToEnd | .eat _ | .eatWhile _
  | .eatSpace | .skipTo _ | .backUp _ | .column | .indentation | .matchText _ _ _
  | .matchPattern _ _ | .setPos _ | .setStart _ =>
    exact ⟨_, cursor, .first, (Action.panics_iff rfl haction h panic).1 hpanic⟩

/-- A program panics because an action on the way does. -/
theorem unwindActions_exists_cause (program : List Action) (hprogram : allScan program = true)
    {cursor : Cursor} (h : cursor.Knows checks line tabSize) {panic : Panic}
    (hpanic : (unwindActions checks program cursor).1 = some panic) :
    ∃ action reached, Reaches checks program cursor action reached ∧
      Causes checks action reached panic := by
  match program with
  | [] => cases hpanic
  | action :: program =>
    obtain ⟨haction, hrest⟩ := Bool.and_eq_true_iff.1 hprogram
    rw [unwindActions] at hpanic
    split at hpanic
    · rename_i middle hrun
      have hmiddle := (action.unwind_knows haction h).1
      rw [hrun] at hmiddle
      obtain ⟨other, reached, hreaches, hcauses⟩ :=
        unwindActions_exists_cause program hrest hmiddle hpanic
      exact ⟨other, reached, .later hrun hreaches, hcauses⟩
    · rename_i stopped middle hrun
      obtain rfl : stopped = panic := Option.some_inj.1 hpanic
      obtain ⟨other, reached, hreaches, hcauses⟩ :=
        action.exists_cause haction h (congrArg Prod.fst hrun)
      exact ⟨other, reached, hreaches.append_program program, hcauses⟩

end

/-! ## Runs without panics -/

mutual

/-- An action that does not panic leaves the cursor where it does if panics are caught. -/
theorem Action.run_of_unwind (action : Action) {cursor : Cursor}
    (hnone : (action.unwind false cursor).1 = none) :
    (action.run cursor).2 = (action.unwind false cursor).2 := by
  match action with
  | .hide n body givesUp =>
    cases hhide : Scan.hiddenAfter n cursor with
    | error fault =>
      have hrun : (Scan.hiddenAfter n).run cursor = .error fault := hhide
      rw [Action.unwind, hrun] at hnone
      cases hnone
    | ok found =>
      rw [Action.unwind_hide hhide] at hnone ⊢
      obtain ⟨hbody, _⟩ := Option.or_eq_none_iff.1 hnone
      rw [Action.run_hide hhide, runActions_of_unwind body hbody]
  | .peek | .next | .rest | .current | .describe | .beginToken | .skipToEnd | .eat _ | .eatWhile _
  | .eatSpace | .skipTo _ | .backUp _ | .column | .indentation | .matchText _ _ _
  | .matchPattern _ _ | .setPos _ | .setStart _ => rfl

/-- A program that does not panic leaves the cursor where it does if panics are caught. -/
theorem runActions_of_unwind (program : List Action) {cursor : Cursor}
    (hnone : (unwindActions false program cursor).1 = none) :
    (runActions program cursor).2 = (unwindActions false program cursor).2 := by
  match program with
  | [] => rfl
  | action :: program =>
    rw [unwindActions] at hnone ⊢
    split at hnone
    · rename_i reached hrun
      have haction := action.run_of_unwind (congrArg Prod.fst hrun)
      rw [hrun] at haction
      change (runActions program (action.run cursor).2).2 = _
      rw [haction]
      exact runActions_of_unwind program hnone
    · cases hnone

end

/-! ## Short lines -/

/-- No column of a line overflows if a word holds a tab size for each of its characters. -/
theorem Action.not_overflows_of_short {action : Action} (h : cursor.Remembers line tabSize)
    (hshort : line.length * max tabSize 1 < wordSize) : ¬ action.Overflows cursor := by
  have hcolumn {offset : Nat} (hoffset : IsBoundary line offset) :
      countColumn? cursor.line (some offset) cursor.tabSize ≠ none := by
    rw [h.line_eq, h.tabSize_eq]
    exact Option.isSome_iff_ne_none.1 (countColumn?_isSome_of_short hoffset hshort)
  have hblanks : countColumn? cursor.line none cursor.tabSize ≠ none := by
    rw [h.line_eq, h.tabSize_eq]
    exact Option.isSome_iff_ne_none.1 (countColumn?_none_isSome_of_short hshort)
  cases action with
  | column => exact not_or.2 ⟨hcolumn h.start, hcolumn h.lineStart⟩
  | indentation => exact not_or.2 ⟨hblanks, hcolumn h.lineStart⟩
  | _ => exact id

mutual

/-- On a short line overflow checks make no difference. -/
theorem Action.unwind_of_short (action : Action) (haction : action.scans = true) {cursor : Cursor}
    (h : cursor.Knows true line tabSize) (hshort : line.length * max tabSize 1 < wordSize) :
    action.unwind true cursor = action.unwind false cursor := by
  match action with
  | .column =>
    obtain ⟨column, hcolumn⟩ :=
      Option.isSome_iff_exists.1 (countColumn?_isSome_of_short h.start hshort)
    obtain ⟨hidden, hhidden⟩ :=
      Option.isSome_iff_exists.1 (countColumn?_isSome_of_short h.lineStart hshort)
    rw [Action.unwind, if_pos rfl, h.checkColumn_eq, hcolumn, hhidden, Action.unwind,
      if_neg Bool.false_ne_true, h.recallColumn_eq, countColumn_of_checked hcolumn]
    rfl
  | .indentation =>
    have hnone : (Action.indentation.unwind true cursor).1 = none := by
      refine Option.eq_none_iff_forall_ne_some.2 fun panic hpanic ↦ ?_
      obtain ⟨_, _, hoverflows⟩ :=
        (Action.indentation.causes_iff_overflows rfl rfl).1
          ((Action.panics_indentation cursor panic).1 hpanic)
      exact Action.not_overflows_of_short h.toRemembers hshort hoverflows
    exact Prod.ext hnone rfl
  | .hide n body givesUp =>
    obtain ⟨boundary, hboundary, hhidden⟩ := hiddenAfter_eq h.toOnBoundaries n
    rw [Action.unwind_hide hboundary, Action.unwind_hide hboundary,
      unwindActions_of_short body haction (h.withPlaces (h.hideTo hhidden)) hshort]
  | .peek | .next | .rest | .current | .describe | .beginToken | .skipToEnd | .eat _ | .eatWhile _
  | .eatSpace | .skipTo _ | .backUp _ | .matchText _ _ _ | .matchPattern _ _ | .setPos _
  | .setStart _ => rfl

/-- On a short line overflow checks make no difference to a program. -/
theorem unwindActions_of_short (program : List Action) (hprogram : allScan program = true)
    {cursor : Cursor} (h : cursor.Knows true line tabSize)
    (hshort : line.length * max tabSize 1 < wordSize) :
    unwindActions true program cursor = unwindActions false program cursor := by
  match program with
  | [] => rfl
  | action :: program =>
    obtain ⟨haction, hrest⟩ := Bool.and_eq_true_iff.1 hprogram
    have hreached := (action.unwind_knows haction h).1
    rw [unwindActions, unwindActions, ← action.unwind_of_short haction h hshort]
    split
    · rename_i reached hrun
      rw [hrun] at hreached
      exact unwindActions_of_short program hrest hreached hshort
    · rfl

end

theorem Cursor.ofLine_tabSize_pos (line : Line) (tabSize : Nat) :
    0 < (Cursor.ofLine line tabSize).tabSize := by
  rw [Cursor.ofLine]
  dsimp only
  split
  · exact Nat.succ_pos 7
  · exact Nat.pos_of_ne_zero ‹_›

/-- However a program scans a line, and however its nested programs end, the places of the cursor
are boundaries of the line before and after every action. If panics are caught, no action fails but
for a look at a token that begins behind the cursor. If nothing catches them, the program ends with
the first one, and every nested program around it gives back the hidden part as it was; without a
panic it ends where it does if they are caught. By itself an action then panics for such a look, or,
in a build that checks for overflow, for a column that no word holds. On a line that is short for its
tab size there is no such column, and overflow checks make no difference. -/
theorem scanning_keeps_boundaries (line : Line) (tabSize : Nat) (program : List Action)
    (hprogram : allScan program = true) :
    ((runActions program (.ofLine line tabSize)).2.OnBoundaries line ∧
      ∀ action cursor, Performs program (.ofLine line tabSize) action cursor →
        cursor.OnBoundaries line ∧ (action.run cursor).2.OnBoundaries line ∧
          (cursor.pos ≤ byteLength line ∧ cursor.start ≤ byteLength line ∧
            cursor.lineStart ≤ byteLength line) ∧
          ((action.run cursor).1 = .badSlice ↔ action = .current ∧ cursor.pos < cursor.start) ∧
          ∀ n body givesUp, action = .hide n body givesUp →
            (action.run cursor).2.lineStart = cursor.lineStart) ∧
      (∀ checks,
        (unwindActions checks program (.ofLine line tabSize)).2.OnBoundaries line ∧
          (unwindActions checks program (.ofLine line tabSize)).2.lineStart = 0 ∧
          (∀ panic, (unwindActions checks program (.ofLine line tabSize)).1 = some panic →
            ∃ action cursor, Reaches checks program (.ofLine line tabSize) action cursor ∧
              Causes checks action cursor panic) ∧
          ∀ action cursor, Reaches checks program (.ofLine line tabSize) action cursor →
            cursor.OnBoundaries line ∧ (action.unwind checks cursor).2.OnBoundaries line ∧
              (action.unwind checks cursor).2.lineStart = cursor.lineStart ∧
              (action.isFlat = true → ∀ panic,
                (action.unwind checks cursor).1 = some panic ↔ Causes checks action cursor panic)) ∧
      ((unwindActions false program (.ofLine line tabSize)).1 = none →
        (runActions program (.ofLine line tabSize)).2 =
          (unwindActions false program (.ofLine line tabSize)).2) ∧
      (line.length * (Cursor.ofLine line tabSize).tabSize < wordSize →
        unwindActions true program (.ofLine line tabSize) =
          unwindActions false program (.ofLine line tabSize)) := by
  have hfresh := Cursor.OnBoundaries.ofLine line tabSize
  refine ⟨⟨runActions_onBoundaries program hprogram hfresh, fun action cursor hperforms ↦ ?_⟩,
    fun checks ↦ ?_, runActions_of_unwind program, fun hshort ↦ ?_⟩
  · obtain ⟨haction, hcursor⟩ := hperforms.onBoundaries hprogram hfresh
    obtain ⟨hreached, hfault⟩ := action.behaves haction hcursor
    refine ⟨hcursor, hreached, hcursor.le_byteLength, hfault, ?_⟩
    rintro n body givesUp rfl
    exact lineStart_run_hide n body givesUp cursor
  · have hknows := Cursor.Knows.ofLine checks line tabSize
    obtain ⟨hlast, hstart⟩ := unwindActions_knows program hprogram hknows
    refine ⟨hlast.toOnBoundaries, hstart,
      fun panic ↦ unwindActions_exists_cause program hprogram hknows,
      fun action cursor hreaches ↦ ?_⟩
    obtain ⟨haction, hcursor⟩ := hreaches.knows hprogram hknows
    obtain ⟨hreached, hhidden⟩ := action.unwind_knows haction hcursor
    exact ⟨hcursor.toOnBoundaries, hreached.toOnBoundaries, hhidden,
      fun hflat ↦ Action.panics_iff hflat haction hcursor⟩
  · refine unwindActions_of_short program hprogram (.ofLine true line tabSize) ?_
    rwa [Nat.max_eq_left (Cursor.ofLine_tabSize_pos line tabSize)]

/-- Hides two characters, one inside the other, goes back as far as it can and breaks off. -/
def Sample.brokenOff : Action :=
  .hide 1 [.next, .hide 1 [.next, .next, .backUp 9, .current] true] true

/-- Two nested programs break off over characters of several bytes. -/
theorem scanning_keeps_boundaries_broken :
    allScan [.next, Sample.brokenOff, .skipTo 'x', .current] = true ∧
      (runActions [.next, Sample.brokenOff, .skipTo 'x', .current]
        (.ofLine ['é', '→', '\t', 'x'] 4)).2.OnBoundaries ['é', '→', '\t', 'x'] ∧
      (Sample.brokenOff.run (Action.next.run (.ofLine ['é', '→', '\t', 'x'] 4)).2).2.lineStart =
        (Action.next.run (.ofLine ['é', '→', '\t', 'x'] 4)).2.lineStart ∧
      (unwindActions true [.next, Sample.brokenOff, .skipTo 'x', .current]
        (.ofLine ['é', '→', '\t', 'x'] 4)).1 = some .gaveUp ∧
      (unwindActions true [.next, Sample.brokenOff, .skipTo 'x', .current]
        (.ofLine ['é', '→', '\t', 'x'] 4)).2.lineStart = 0 ∧
      4 * 4 < wordSize ∧
      unwindActions true [.next, Sample.brokenOff, .skipTo 'x', .current]
          (.ofLine ['é', '→', '\t', 'x'] 4) =
        unwindActions false [.next, Sample.brokenOff, .skipTo 'x', .current]
          (.ofLine ['é', '→', '\t', 'x'] 4) := by
  have hprogram : allScan [.next, Sample.brokenOff, .skipTo 'x', .current] = true := rfl
  have hshort : 4 * 4 < wordSize := by decide
  obtain ⟨⟨hlast, hactions⟩, hunwinds, _, hchecks⟩ :=
    scanning_keeps_boundaries ['é', '→', '\t', 'x'] 4 _ hprogram
  obtain ⟨_, _, _, _, hhidden⟩ := hactions Sample.brokenOff _ (.later .first)
  obtain ⟨_, hstart, _, _⟩ := hunwinds true
  exact ⟨hprogram, hlast, hhidden 1 _ true rfl, rfl, hstart, hshort, hchecks hshort⟩

/-- Behind two tabs that take half the word each, less one column, no word holds the column at the
end of the line. -/
theorem column_overflows_by_itself :
    allScan [.skipToEnd, .beginToken, .column] = true ∧
      (unwindActions true [.skipToEnd, .beginToken, .column]
        (.ofLine ['\t', '\t', 'a', 'b'] 9223372036854775807)).1 = some .overflow ∧
      ∃ cursor, Reaches true [.skipToEnd, .beginToken, .column]
          (.ofLine ['\t', '\t', 'a', 'b'] 9223372036854775807) .column cursor ∧
        cursor.start = cursor.pos ∧
        (Action.column.unwind true cursor).1 = some .overflow :=
  ⟨rfl, by decide, _, .later rfl (.later rfl .first), rfl, by decide⟩

end LineLexer
