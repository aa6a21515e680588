import LineLexer.Proofs.Outcome
import LineLexer.Proofs.Text.Boundary
import LineLexer.Scan.Cursor

/-!
# Scanning actions on a line in four parts

A cursor whose token has begun divides its line: the hidden part, the visible text passed before the
token, the token so far, and the rest. Every action is computed here on such a cursor. What it
answers and how it moves text from the rest to the token never depends on the hidden part.
-/

namespace LineLexer

open Outcome

/-- Where going back stops: the end of the hidden part, or the start of the line for a cursor inside
that part. -/
def Cursor.floor (cursor : Cursor) : Nat :=
  if cursor.pos < cursor.lineStart then 0 else cursor.lineStart

/-- The cursor that divides its line into these parts; its other fields are those of `base`. -/
def Cursor.placed (base : Cursor) (hidden passed token rest : List Char) : Cursor :=
  { base with
    line := hidden ++ (passed ++ (token ++ rest))
    lineStart := byteLength hidden
    start := byteLength hidden + byteLength passed
    pos := byteLength hidden + (byteLength passed + byteLength token) }

namespace Cursor

variable (base : Cursor) (hidden passed token text rest : List Char)

theorem line_placed_append :
    (base.placed hidden passed (token ++ text) rest).line =
      (base.placed hidden passed token (text ++ rest)).line := by
  simp [placed]

theorem pos_placed_append :
    (base.placed hidden passed (token ++ text) rest).pos =
      (base.placed hidden passed token (text ++ rest)).pos + byteLength text := by
  simp [placed, Nat.add_assoc]

/-- Where nothing is left, the cursor stands at the end of the line. -/
theorem pos_placed_nil :
    (base.placed hidden passed token []).pos =
      byteLength (base.placed hidden passed token []).line := by
  simp [placed]

/-- Where no part is hidden, offsets are counted from the text passed. -/
theorem pos_placed_visible :
    (base.placed [] passed token rest).pos = byteLength passed + byteLength token := by
  simp [placed]

theorem isBoundary_placed :
    IsBoundary (base.placed hidden passed token rest).line
      (base.placed hidden passed token rest).pos := by
  have hcut := isBoundary_append (hidden ++ (passed ++ token)) rest
  simpa [placed] using hcut

/-- A token that begins has the token before it among the text passed. -/
theorem beginToken_placed :
    (base.placed hidden passed token rest).beginToken =
      base.placed hidden (passed ++ token) [] rest := by
  simp [beginToken, placed]

/-- At the start of a line all of it lies ahead. -/
theorem placed_ofLine (line : Line) (tabSize : Nat) :
    (ofLine line tabSize).placed [] [] [] line = ofLine line tabSize := by
  simp [placed, ofLine]

theorem beginToken_ofLine (line : Line) (tabSize : Nat) :
    (ofLine line tabSize).beginToken = (ofLine line tabSize).placed [] [] [] line := by
  rw [placed_ofLine]
  rfl

/-- From a token one can go back to the end of the hidden part. -/
theorem floor_placed : (base.placed hidden passed token rest).floor = byteLength hidden :=
  if_neg (Nat.not_lt.2 (Nat.le_add_right _ _))

/-- A cursor knows where the token ends. -/
theorem placed_inj {base : Cursor} {hidden passed token rest token' rest' : List Char}
    (h : base.placed hidden passed token rest = base.placed hidden passed token' rest') :
    token = token' ∧ rest = rest' := by
  have hline := congrArg Cursor.line h
  have hpos := congrArg Cursor.pos h
  simp only [placed, List.append_cancel_left_eq, Nat.add_left_cancel_iff] at hline hpos
  exact append_inj_of_byteLength hline hpos

end Cursor

/-- The token is what lies between where it begins and where the cursor is. -/
theorem slice?_placed (base : Cursor) (passed token rest : List Char) :
    slice? (passed ++ (token ++ rest)) (base.placed [] passed [] (token ++ rest)).pos
      (base.placed [] passed token rest).pos = some token := by
  rw [Cursor.pos_placed_visible, Cursor.pos_placed_visible]
  exact slice?_append passed token rest

/-- A cursor at the start of a token, in parts. -/
theorem Cursor.exists_placed {cursor : Cursor} (hpos : IsBoundary cursor.line cursor.pos)
    (hstart : cursor.start = cursor.pos) (hvisible : cursor.lineStart = 0) :
    ∃ passed rest, cursor = cursor.placed [] passed [] rest := by
  obtain ⟨line, tabSize, pos, start, lineStart, knownPos, knownColumn⟩ := cursor
  obtain ⟨passed, rest, rfl, rfl⟩ := hpos
  obtain rfl : lineStart = 0 := hvisible
  obtain rfl : start = byteLength passed := hstart
  exact ⟨passed, rest, by simp [Cursor.placed]⟩

/-- A text occurs first after `before`. -/
theorem offsetOf?_eq_some {wanted text : List Char} {offset : Nat}
    (h : offsetOf? wanted text = some offset) :
    ∃ before after, text = before ++ (wanted ++ after) ∧ byteLength before = offset := by
  induction text generalizing offset with
  | nil =>
    by_cases hwanted : wanted = []
    · simp only [offsetOf?, hwanted, if_true, Option.some.injEq] at h
      exact ⟨[], [], by simp [hwanted], by simp [h]⟩
    · simp [offsetOf?, hwanted] at h
  | cons c text ih =>
    rw [offsetOf?] at h
    split at h
    · rename_i hprefix
      obtain ⟨after, hafter⟩ := List.isPrefixOf_iff_prefix.1 hprefix
      exact ⟨[], after, by simp [hafter], by simpa using h⟩
    · obtain ⟨inner, hinner, rfl⟩ := Option.map_eq_some_iff.1 h
      obtain ⟨before, after, rfl, rfl⟩ := ih hinner
      exact ⟨c :: before, after, rfl, by simp [Nat.add_comm]⟩

/-- What a text holds nowhere is not found in it. -/
theorem offsetOf?_eq_none {wanted text : List Char} (h : ¬ wanted <:+: text) :
    offsetOf? wanted text = none := by
  cases hoffset : offsetOf? wanted text with
  | none => rfl
  | some offset =>
    obtain ⟨before, after, rfl, _⟩ := offsetOf?_eq_some hoffset
    exact absurd ⟨before, after, by simp⟩ h

/-- A text whose last character occurs in it once does not begin before its place. -/
theorem not_prefix_of_not_infix {start before : List Char} {c : Char} (hc : c ∉ start)
    (hbefore : ¬ (start ++ [c]) <:+: before) (hne : before ≠ []) (after : List Char) :
    ¬ (start ++ [c]) <+: before ++ (start ++ [c] ++ after) := by
  intro hprefix
  have hlonger : before ++ start <+: before ++ (start ++ [c] ++ after) := by simp
  have hlength : (start ++ [c]).length ≤ (before ++ start).length := by
    have hpos := List.length_pos_iff.2 hne
    simp only [List.length_append, List.length_singleton]
    omega
  obtain ⟨rest, hrest⟩ := List.prefix_of_prefix_length_le hprefix hlonger hlength
  rcases List.append_eq_append_iff.1 hrest with ⟨_, rfl, _⟩ | ⟨overlap, hoverlap, hstart⟩
  · exact hbefore (List.prefix_append _ _).isInfix
  · rcases List.eq_nil_or_concat overlap with rfl | ⟨init, last, rfl⟩
    · rw [List.append_nil] at hoverlap
      exact hbefore (hoverlap ▸ List.infix_rfl)
    · rw [List.concat_eq_append, ← List.append_assoc] at hoverlap
      obtain ⟨_, hlast⟩ := List.append_inj' hoverlap rfl
      rw [hstart, List.cons.inj hlast |>.1] at hc
      simp at hc

/-- A text whose last character occurs in it once is found where it stands first. -/
theorem offsetOf?_append {start before : List Char} {c : Char} (hc : c ∉ start)
    (hbefore : ¬ (start ++ [c]) <:+: before) (after : List Char) :
    offsetOf? (start ++ [c]) (before ++ (start ++ [c] ++ after)) = some (byteLength before) := by
  induction before with
  | nil =>
    have hprefix : (start ++ [c]).isPrefixOf (start ++ [c] ++ after) = true :=
      List.isPrefixOf_iff_prefix.2 (List.prefix_append _ _)
    cases start with
    | nil => simp [offsetOf?]
    | cons d start => exact if_pos hprefix
  | cons d before ih =>
    have hprefix : ¬ (start ++ [c]).isPrefixOf (d :: (before ++ (start ++ [c] ++ after))) = true :=
      fun hprefix ↦ not_prefix_of_not_infix hc hbefore (List.cons_ne_nil d before) after
        (List.isPrefixOf_iff_prefix.1 hprefix)
    have hinner := ih fun hin ↦ hbefore (hin.trans (List.suffix_cons d before).isInfix)
    rw [List.cons_append, offsetOf?, if_neg hprefix, hinner]
    simp [Nat.add_comm]

namespace Scan

variable {α β : Type} (base : Cursor) (hidden passed token rest : List Char)

/-! ## Steps of the monad -/

theorem bind_apply (action : Scan α) (next : α → Scan β) (cursor : Cursor) :
    (action >>= next) cursor = action cursor >>= fun found ↦ next found.1 found.2 := rfl

theorem pure_apply (a : α) (cursor : Cursor) : (pure a : Scan α) cursor = .ok (a, cursor) := rfl

theorem get_apply (cursor : Cursor) : (get : Scan Cursor) cursor = .ok (cursor, cursor) := rfl

theorem modify_apply (f : Cursor → Cursor) (cursor : Cursor) :
    (modify f : Scan Unit) cursor = .ok ((), f cursor) := rfl

theorem set_apply (other cursor : Cursor) : (set other : Scan Unit) cursor = .ok ((), other) := rfl

theorem lift_apply (outcome : Except BadSlice α) (cursor : Cursor) :
    (liftM outcome : Scan α) cursor = outcome >>= fun a ↦ .ok (a, cursor) := rfl

/-! ## Actions where the cursor stands -/

section

variable {cursor : Cursor} {before text after : List Char}

theorem rest_of_append (hline : cursor.line = before ++ after)
    (hpos : cursor.pos = byteLength before) : Scan.rest cursor = .ok (after, cursor) := by
  rw [Scan.rest, bind_apply, get_apply, ok_bind, lift_apply, hline, hpos, sliceFrom_append, ok_bind]

theorem next_of_append (hline : cursor.line = before ++ after)
    (hpos : cursor.pos = byteLength before) :
    Scan.next cursor =
      .ok (after.head?, { cursor with pos := cursor.pos + byteLength (after.take 1) }) := by
  simp only [Scan.next, Scan.eat, Scan.peek, bind_apply, rest_of_append hline hpos, ok_bind,
    pure_apply]
  cases after <;> rfl

theorem current_apply (cursor : Cursor) :
    Scan.current cursor =
      slice cursor.line cursor.start cursor.pos >>= fun token ↦ .ok (token, cursor) := rfl

/-- The hidden part grows by so many characters, or by all there are. -/
theorem hiddenAfter_of_append (hline : cursor.line = before ++ after)
    (hstart : cursor.lineStart = byteLength before) (n : Nat) :
    Scan.hiddenAfter n cursor = .ok (byteLength before + byteLength (after.take n), cursor) := by
  have hslice : sliceFrom cursor.line cursor.lineStart = .ok after := by
    rw [hline, hstart, sliceFrom_append]
  rw [Scan.hiddenAfter, bind_apply, get_apply, ok_bind, bind_apply, lift_apply, hslice, hstart]
  rfl

/-- A move back drops characters from the end of the text between floor and cursor. -/
theorem backUp_apply (n : Nat) (cursor : Cursor) :
    Scan.backUp n cursor = slice cursor.line cursor.floor cursor.pos >>= fun passed ↦
      .ok ((), { cursor with
        pos := cursor.floor + byteLength (passed.take (passed.length - n)) }) := by
  simp only [Scan.backUp, bind_apply, get_apply, ok_bind, lift_apply, set_apply, bind_assoc]
  rfl

/-- Of the text since the floor, going back keeps all characters but the last `n`. -/
theorem backUp_of_append (hline : cursor.line = before ++ (text ++ after))
    (hfloor : cursor.floor = byteLength before)
    (hpos : cursor.pos = byteLength before + byteLength text) (n : Nat) :
    Scan.backUp n cursor = .ok ((), { cursor with
      pos := byteLength before + byteLength (text.take (text.length - n)) }) := by
  have hslice : slice cursor.line cursor.floor cursor.pos = .ok text := by
    rw [hline, hfloor, hpos, slice_append]
  rw [backUp_apply, hslice, ok_bind, hfloor]

/-- To go back over a text that ends where the cursor stands. -/
theorem backUp_over {kept : List Char} (hline : cursor.line = before ++ (kept ++ (text ++ after)))
    (hfloor : cursor.floor = byteLength before)
    (hpos : cursor.pos = byteLength before + byteLength kept + byteLength text) :
    Scan.backUp text.length cursor =
      .ok ((), { cursor with pos := byteLength before + byteLength kept }) := by
  have hpassed : cursor.line = before ++ (kept ++ text ++ after) := by
    rw [hline, List.append_assoc]
  have hend : cursor.pos = byteLength before + byteLength (kept ++ text) := by
    rw [hpos, byteLength_append, Nat.add_assoc]
  rw [backUp_of_append hpassed hfloor hend, List.length_append, Nat.add_sub_cancel, List.take_left]

end

/-! ## Actions -/

theorem atStart_placed :
    (base.placed hidden passed token rest).atStart = (passed ++ token).isEmpty := by
  have hzero : byteLength (passed ++ token) = 0 ↔ passed ++ token = [] := byteLength_eq_zero_iff
  rw [Bool.eq_iff_iff, List.isEmpty_iff, ← hzero, byteLength_append, Cursor.atStart,
    decide_eq_true_iff]
  simp only [Cursor.placed]
  omega

theorem rest_placed :
    Scan.rest (base.placed hidden passed token rest) =
      .ok (rest, base.placed hidden passed token rest) := by
  have hline : (base.placed hidden passed token rest).line = hidden ++ (passed ++ token) ++ rest := by
    simp [Cursor.placed]
  exact rest_of_append hline (by simp [Cursor.placed])

theorem current_placed :
    Scan.current (base.placed hidden passed token rest) =
      .ok (token, base.placed hidden passed token rest) := by
  have hslice := slice_append (hidden ++ passed) token rest
  simp only [List.append_assoc, byteLength_append, Nat.add_assoc] at hslice
  simp only [current_apply, Cursor.placed, hslice, ok_bind]

theorem advance_placed (text : List Char) :
    Scan.advance text (base.placed hidden passed token (text ++ rest)) =
      .ok ((), base.placed hidden passed (token ++ text) rest) := by
  simp [Scan.advance, modify_apply, Cursor.placed, Nat.add_assoc]

theorem skipToEnd_placed :
    Scan.skipToEnd (base.placed hidden passed token rest) =
      .ok ((), base.placed hidden passed (token ++ rest) []) := by
  simp [Scan.skipToEnd, modify_apply, Cursor.placed]

theorem peek_placed :
    Scan.peek (base.placed hidden passed token rest) =
      .ok (rest.head?, base.placed hidden passed token rest) := by
  simp only [Scan.peek, bind_apply, rest_placed, ok_bind, pure_apply]

theorem eat_placed_nil (accepts : Char → Bool) :
    Scan.eat accepts (base.placed hidden passed token []) =
      .ok (none, base.placed hidden passed token []) := by
  simp only [Scan.eat, bind_apply, peek_placed, ok_bind, List.head?_nil, pure_apply]

theorem eat_placed_cons (accepts : Char → Bool) (c : Char) :
    Scan.eat accepts (base.placed hidden passed token (c :: rest)) =
      if accepts c then .ok (some c, base.placed hidden passed (token ++ [c]) rest)
      else .ok (none, base.placed hidden passed token (c :: rest)) := by
  have hadvance := advance_placed base hidden passed token rest [c]
  rw [List.singleton_append] at hadvance
  simp only [Scan.eat, bind_apply, peek_placed, ok_bind, List.head?_cons]
  split
  · simp only [bind_apply, hadvance, ok_bind, pure_apply]
  · rfl

theorem next_placed (c : Char) :
    Scan.next (base.placed hidden passed token (c :: rest)) =
      .ok (some c, base.placed hidden passed (token ++ [c]) rest) := by
  rw [Scan.next, eat_placed_cons, if_pos rfl]

theorem eatChar_placed (c : Char) :
    Scan.eatChar c (base.placed hidden passed token (c :: rest)) =
      .ok (true, base.placed hidden passed (token ++ [c]) rest) := by
  simp only [Scan.eatChar, bind_apply, eat_placed_cons, beq_self_eq_true, if_true, ok_bind,
    pure_apply, Option.isSome_some]

theorem eatChar_placed_of_ne {c wanted : Char} (hne : c ≠ wanted) :
    Scan.eatChar wanted (base.placed hidden passed token (c :: rest)) =
      .ok (false, base.placed hidden passed token (c :: rest)) := by
  simp only [Scan.eatChar, bind_apply, eat_placed_cons, beq_eq_false_iff_ne.2 hne,
    Bool.false_eq_true, if_false, ok_bind, pure_apply, Option.isSome_none]

/-- The longest run of accepted characters is taken. -/
theorem eatWhile_placed (accepts : Char → Bool) :
    Scan.eatWhile accepts (base.placed hidden passed token rest) =
      .ok (!(rest.takeWhile accepts).isEmpty,
        base.placed hidden passed (token ++ rest.takeWhile accepts) (rest.dropWhile accepts)) := by
  have hadvance := advance_placed base hidden passed token (rest.dropWhile accepts)
    (rest.takeWhile accepts)
  rw [List.takeWhile_append_dropWhile] at hadvance
  simp only [Scan.eatWhile, bind_apply, rest_placed, ok_bind, hadvance, pure_apply]

theorem skipToText_placed_none {wanted : List Char} (hnone : offsetOf? wanted rest = none) :
    Scan.skipToText wanted (base.placed hidden passed token rest) =
      .ok (false, base.placed hidden passed token rest) := by
  simp only [Scan.skipToText, bind_apply, rest_placed, ok_bind, hnone, pure_apply]

theorem skipToText_placed_some {wanted before after : List Char}
    (hsome : offsetOf? wanted (before ++ after) = some (byteLength before)) :
    Scan.skipToText wanted (base.placed hidden passed token (before ++ after)) =
      .ok (true, base.placed hidden passed (token ++ before) after) := by
  simp only [Scan.skipToText, bind_apply, rest_placed, ok_bind, hsome, modify_apply, pure_apply]
  simp [Cursor.placed, Nat.add_assoc]

/-- To go back within the token gives its last characters back to the rest. -/
theorem backUp_placed (text : List Char) :
    Scan.backUp text.length (base.placed hidden passed (token ++ text) rest) =
      .ok ((), base.placed hidden passed token (text ++ rest)) := by
  have hline : (base.placed hidden passed (token ++ text) rest).line =
      hidden ++ (passed ++ token ++ (text ++ rest)) := by
    simp [Cursor.placed]
  rw [backUp_over hline (Cursor.floor_placed ..) (by simp [Cursor.placed, Nat.add_assoc])]
  simp [Cursor.placed]

/-- To go back from the start of a token leaves it. -/
theorem backUp_passed (n : Nat) :
    Scan.backUp n (base.placed [] passed [] rest) =
      .ok ((), { base.placed [] passed [] rest with
        pos := byteLength (passed.take (passed.length - n)) }) := by
  have hline : (base.placed [] passed [] rest).line = [] ++ (passed ++ rest) := rfl
  have hback := backUp_of_append hline (Cursor.floor_placed ..) (by simp [Cursor.placed]) n
  rwa [byteLength_nil, Nat.zero_add] at hback

theorem matchText_placed (wanted : List Char) :
    Scan.matchText wanted true (base.placed hidden passed token (wanted ++ rest)) =
      .ok (true, base.placed hidden passed (token ++ wanted) rest) := by
  have hprefix : wanted.isPrefixOf (wanted ++ rest) = true :=
    List.isPrefixOf_iff_prefix.2 (List.prefix_append _ _)
  simp only [Scan.matchText, bind_apply, rest_placed, ok_bind, hprefix, if_true, advance_placed,
    pure_apply]

theorem matchText_placed_of_not {wanted : List Char} (hnot : wanted.isPrefixOf rest = false) :
    Scan.matchText wanted true (base.placed hidden passed token rest) =
      .ok (false, base.placed hidden passed token rest) := by
  simp only [Scan.matchText, bind_apply, rest_placed, ok_bind, hnot, Bool.false_eq_true, if_false,
    pure_apply]

theorem eatPattern_placed_none {pattern : Pattern} (hnone : pattern.match? rest = none) :
    Scan.eatPattern pattern (base.placed hidden passed token rest) =
      .ok (false, base.placed hidden passed token rest) := by
  simp only [Scan.eatPattern, Scan.matchPattern, bind_apply, rest_placed, ok_bind, hnone,
    pure_apply, Option.isSome_none]

theorem eatPattern_placed_some {pattern : Pattern} {found : Pattern.Match}
    (hsome : pattern.match? (found.text ++ rest) = some found) :
    Scan.eatPattern pattern (base.placed hidden passed token (found.text ++ rest)) =
      .ok (true, base.placed hidden passed (token ++ found.text) rest) := by
  simp only [Scan.eatPattern, Scan.matchPattern, bind_apply, rest_placed, ok_bind, hsome, if_true,
    advance_placed, pure_apply, Option.isSome_some]

/-- To hide one more character moves it from the text passed to the hidden part, for as long as
the body runs. -/
theorem withHidden_placed {body : Scan α} {a : α} {c : Char} {token' rest' : List Char}
    (hbody : body (base.placed (hidden ++ [c]) passed token rest) =
      .ok (a, base.placed (hidden ++ [c]) passed token' rest')) :
    Scan.withHidden 1 body (base.placed hidden (c :: passed) token rest) =
      .ok (a, base.placed hidden (c :: passed) token' rest') := by
  have hboundary : Scan.hiddenAfter 1 (base.placed hidden (c :: passed) token rest) =
      .ok (byteLength (hidden ++ [c]), base.placed hidden (c :: passed) token rest) := by
    have hline : (base.placed hidden (c :: passed) token rest).line =
        hidden ++ (c :: passed ++ (token ++ rest)) := rfl
    rw [hiddenAfter_of_append hline rfl, byteLength_append]
    rfl
  have hhide (token rest : List Char) :
      { base.placed hidden (c :: passed) token rest with
        lineStart := byteLength (hidden ++ [c]) } =
        base.placed (hidden ++ [c]) passed token rest := by
    simp [Cursor.placed, Nat.add_assoc]
  have hshow (token rest : List Char) :
      { base.placed (hidden ++ [c]) passed token rest with lineStart := byteLength hidden } =
        base.placed hidden (c :: passed) token rest := by
    simp [Cursor.placed, Nat.add_assoc]
  simp only [Scan.withHidden, bind_apply, get_apply, ok_bind, hboundary, modify_apply, hhide, hbody,
    pure_apply]
  rw [← hshow token' rest']
  rfl

end Scan

end LineLexer
