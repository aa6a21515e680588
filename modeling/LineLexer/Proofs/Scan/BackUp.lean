import LineLexer.Proofs.Scan.Placed

/-!
# Going back

A cursor goes back over the characters since its floor, the last one first, and stops at the floor.
The floor stays where it is as the cursor goes back, so two moves back add up to one. As the cursor
goes forward the floor changes only where it leaves the hidden part: characters that are taken one
by one are given back by one move unless they lead out of that part.
-/

namespace LineLexer

open Outcome Scan

variable {cursor reached : Cursor}

/-! ## The floor -/

namespace Cursor

theorem floor_le_pos (cursor : Cursor) : cursor.floor ≤ cursor.pos := by
  unfold floor
  split
  · exact Nat.zero_le _
  · exact Nat.not_lt.1 ‹_›

theorem floor_le_lineStart (cursor : Cursor) : cursor.floor ≤ cursor.lineStart := by
  unfold floor
  split
  · exact Nat.zero_le _
  · exact Nat.le_refl _

/-- A cursor keeps its floor as it goes back. -/
theorem floor_of_between {pos : Nat} (hfloor : cursor.floor ≤ pos) (hpos : pos ≤ cursor.pos) :
    Cursor.floor { cursor with pos } = cursor.floor := by
  unfold floor at hfloor ⊢
  dsimp only
  split at hfloor <;> split <;> omega

/-- Where going back stops is a boundary. -/
theorem isBoundary_floor (h : IsBoundary cursor.line cursor.lineStart) :
    IsBoundary cursor.line cursor.floor := by
  unfold floor
  split
  · exact isBoundary_zero cursor.line
  · exact h

end Cursor

namespace Scan

/-! ## Moving back -/

/-- The text since the floor is cut behind all characters but the last `n`, or before all of them if
there are fewer. -/
theorem exists_backUp {before passed after : List Char}
    (hline : cursor.line = before ++ (passed ++ after)) (hfloor : byteLength before = cursor.floor)
    (hpassed : byteLength before + byteLength passed = cursor.pos) (n : Nat) :
    ∃ kept undone, passed = kept ++ undone ∧ undone.length = min n passed.length ∧
      Scan.backUp n cursor =
        .ok ((), { cursor with pos := byteLength before + byteLength kept }) := by
  refine ⟨passed.take (passed.length - n), passed.drop (passed.length - n),
    (List.take_append_drop _ _).symm, ?_, backUp_of_append hline hfloor.symm hpassed.symm n⟩
  rw [List.length_drop]
  omega

/-- The cursor moves to the boundary `n` characters before, or to the floor if there are fewer
characters since the floor. -/
theorem backUp_counts (hpos : IsBoundary cursor.line cursor.pos)
    (hhidden : IsBoundary cursor.line cursor.lineStart) :
    ∃ passed, slice cursor.line cursor.floor cursor.pos = .ok passed ∧
      ∀ n, ∃ offset undone, IsBoundary cursor.line offset ∧
        slice cursor.line offset cursor.pos = .ok undone ∧
        undone.length = min n passed.length ∧
        Scan.backUp n cursor = .ok ((), { cursor with pos := offset }) := by
  obtain ⟨before, passed, after, hline, hfloor, hpassed⟩ :=
    (Cursor.isBoundary_floor hhidden).exists_middle hpos cursor.floor_le_pos
  refine ⟨passed, slice_eq_ok_iff.2 ⟨before, after, hline, hfloor, hpassed⟩, fun n ↦ ?_⟩
  obtain ⟨kept, undone, rfl, hlength, hback⟩ := exists_backUp hline hfloor hpassed n
  have hkept : cursor.line = before ++ kept ++ (undone ++ after) := by
    rw [hline, List.append_assoc, List.append_assoc]
  have hundone : byteLength (before ++ kept) + byteLength undone = cursor.pos := by
    rw [← hpassed, byteLength_append, byteLength_append, Nat.add_assoc]
  refine ⟨byteLength (before ++ kept), undone, ⟨before ++ kept, undone ++ after, hkept, rfl⟩,
    slice_eq_ok_iff.2 ⟨before ++ kept, after, hkept, rfl, hundone⟩, hlength, ?_⟩
  rw [byteLength_append]
  exact hback

/-- No move back goes below the floor. -/
theorem floor_le_of_backUp {n : Nat} (h : Scan.backUp n cursor = .ok ((), reached)) :
    cursor.floor ≤ reached.pos := by
  rw [backUp_apply, bind_eq_ok_iff] at h
  obtain ⟨_, _, hreached⟩ := h
  cases hreached
  exact Nat.le_add_right _ _

/-- To go back twice is to go back once by as many characters; where the first move asks for a bad
slice, the one move asks for the same. -/
theorem backUp_backUp (m n : Nat) :
    (do
      Scan.backUp m
      Scan.backUp n) = Scan.backUp (m + n) := by
  funext cursor
  rw [bind_apply]
  cases hslice : slice cursor.line cursor.floor cursor.pos with
  | error fault => simp only [backUp_apply, hslice, error_bind]
  | ok passed =>
    obtain ⟨before, after, hline, hfloor, hpassed⟩ := slice_eq_ok_iff.1 hslice
    obtain ⟨kept₁, undone₁, hcut₁, hlength₁, hfirst⟩ := exists_backUp hline hfloor hpassed m
    let middle : Cursor := { cursor with pos := byteLength before + byteLength kept₁ }
    have hmiddle : middle.line = before ++ (kept₁ ++ (undone₁ ++ after)) := by
      rw [← List.append_assoc kept₁, ← hcut₁]
      exact hline
    have hle : middle.pos ≤ cursor.pos := by
      rw [← hpassed, hcut₁, byteLength_append]
      exact Nat.add_le_add_left (Nat.le_add_right _ _) _
    have hsame : middle.floor = cursor.floor :=
      Cursor.floor_of_between (hfloor ▸ Nat.le_add_right _ _) hle
    obtain ⟨kept₂, undone₂, hcut₂, hlength₂, hsecond⟩ :=
      exists_backUp hmiddle (hfloor.trans hsame.symm) rfl n
    obtain ⟨kept, undone, hcut, hlength, hboth⟩ := exists_backUp hline hfloor hpassed (m + n)
    -- both ways leave out as many characters at the end of the same text
    have hkept : kept₂ = kept := by
      have hparts : kept₂ ++ (undone₂ ++ undone₁) = kept ++ undone := by
        rw [← List.append_assoc, ← hcut₂, ← hcut₁, hcut]
      refine (List.append_inj' hparts ?_).1
      rw [hcut₁, hcut₂] at hlength₁ hlength
      rw [hcut₂] at hlength₂
      simp only [List.length_append] at hlength₁ hlength₂ hlength ⊢
      omega
    rw [hfirst, ok_bind, hsecond, hboth, hkept]

/-! ## Moving forward and back -/

/-- So many calls of `next` one after the other, each of which finds a character. -/
inductive NextCalls : Nat → Cursor → Cursor → Prop where
  | none {cursor : Cursor} : NextCalls 0 cursor cursor
  | call {k : Nat} {c : Char} {cursor middle reached : Cursor}
      (hnext : Scan.next cursor = .ok (some c, middle)) (hrest : NextCalls k middle reached) :
      NextCalls (k + 1) cursor reached

/-- The calls take the text that lies ahead, a character each. -/
theorem NextCalls.exists_taken {k : Nat} (h : NextCalls k cursor reached) {before ahead : List Char}
    (hline : cursor.line = before ++ ahead) (hpos : cursor.pos = byteLength before) :
    ∃ text after, ahead = text ++ after ∧ text.length = k ∧
      reached = { cursor with pos := cursor.pos + byteLength text } := by
  induction h generalizing before ahead with
  | none => exact ⟨[], ahead, rfl, rfl, rfl⟩
  | @call k c cursor middle reached hnext hrest ih =>
    rw [next_of_append hline hpos] at hnext
    cases ahead with
    | nil => cases hnext
    | cons _ ahead =>
      cases hnext
      obtain ⟨text, after, rfl, rfl, rfl⟩ :=
        @ih (before ++ [c]) ahead (by simp [hline]) (by simp [hpos])
      exact ⟨c :: text, after, rfl, rfl, by simp [Nat.add_assoc]⟩

/-- As many calls succeed as there are characters ahead. -/
theorem nextCalls_of_append {before text after : List Char}
    (hline : cursor.line = before ++ (text ++ after)) (hpos : cursor.pos = byteLength before) :
    NextCalls text.length cursor { cursor with pos := cursor.pos + byteLength text } := by
  induction text generalizing cursor before with
  | nil => exact .none
  | cons c text ih =>
    let middle : Cursor := { cursor with pos := cursor.pos + byteLength [c] }
    have hmiddle : middle.line = before ++ [c] ++ (text ++ after) := by simp [middle, hline]
    have hrest := ih hmiddle (by simp [middle, hpos])
    have hnext : Scan.next cursor = .ok (some c, middle) := next_of_append hline hpos
    simpa [middle, Nat.add_assoc] using NextCalls.call hnext hrest

/-- There are as many calls of `next` as characters ahead, and no more. -/
theorem exists_nextCalls_iff {before ahead : List Char} (hline : cursor.line = before ++ ahead)
    (hpos : cursor.pos = byteLength before) (k : Nat) :
    (∃ reached, NextCalls k cursor reached) ↔ k ≤ ahead.length := by
  constructor
  · rintro ⟨reached, hcalls⟩
    obtain ⟨text, after, rfl, rfl, _⟩ := hcalls.exists_taken hline hpos
    simp
  · intro hle
    rw [← List.take_append_drop k ahead] at hline
    have hcalls := nextCalls_of_append hline hpos
    rw [List.length_take_of_le hle] at hcalls
    exact ⟨_, hcalls⟩

/-- One move back undoes the calls exactly if it does not have to stop before, at the floor. -/
theorem NextCalls.backUp_eq_iff {k : Nat} (h : NextCalls k cursor reached)
    (hpos : IsBoundary cursor.line cursor.pos)
    (hhidden : IsBoundary cursor.line cursor.lineStart) :
    Scan.backUp k reached = .ok ((), cursor) ↔ reached.floor ≤ cursor.pos := by
  refine ⟨floor_le_of_backUp, fun hle ↦ ?_⟩
  obtain ⟨before, ahead, hline, hbefore⟩ := hpos
  obtain ⟨text, after, rfl, rfl, hreached⟩ := h.exists_taken hline hbefore.symm
  have hsame : reached.line = cursor.line := by rw [hreached]
  have hfloor : IsBoundary cursor.line reached.floor := by
    rw [← hsame]
    refine Cursor.isBoundary_floor ?_
    rw [hreached]
    exact hhidden
  obtain ⟨start, kept, rest, hparts, hstart, hkept⟩ :=
    hfloor.exists_middle ⟨before, text ++ after, hline, hbefore⟩ hle
  obtain ⟨rfl, rfl⟩ : before = start ++ kept ∧ text ++ after = rest := by
    refine append_inj_of_byteLength ?_ ?_
    · rw [← hline, hparts, List.append_assoc]
    · rw [hbefore, ← hkept, byteLength_append]
  have hend : reached.pos = byteLength start + byteLength kept + byteLength text := by
    rw [hkept, hreached]
  rw [backUp_over (hsame.trans hparts) hstart.symm hend, hkept, hreached]

/-- Three characters taken from the start of the line lead out of a hidden part of two. -/
example : Scan.backUp 3 { Cursor.ofLine [' ', ' ', 'f', 'o', 'o'] 4 with pos := 3, lineStart := 2 } =
    .ok ((), { Cursor.ofLine [' ', ' ', 'f', 'o', 'o'] 4 with pos := 2, lineStart := 2 }) := rfl

/-- In the visible part of the line every such move undoes the calls. -/
theorem NextCalls.backUp_eq {k : Nat} (h : NextCalls k cursor reached)
    (hpos : IsBoundary cursor.line cursor.pos) (hhidden : IsBoundary cursor.line cursor.lineStart)
    (hvisible : cursor.lineStart ≤ cursor.pos) : Scan.backUp k reached = .ok ((), cursor) := by
  refine (h.backUp_eq_iff hpos hhidden).2 ?_
  obtain ⟨before, ahead, hline, hbefore⟩ := hpos
  obtain ⟨_, _, _, _, hreached⟩ := h.exists_taken hline hbefore.symm
  calc
    reached.floor ≤ reached.lineStart := reached.floor_le_lineStart
    _ = cursor.lineStart := by rw [hreached]
    _ ≤ cursor.pos := hvisible

/-- Going back undoes going forward. From boundaries, to go back by `n` moves the cursor to the
boundary `n` characters before, or to the floor if there are fewer characters since the floor, and
changes nothing else. As many calls of `next` succeed as there are characters ahead, and to go back
by their number gives the cursor as it was before them, if it was not inside the hidden part. To go
back twice is to go back once by as many characters. -/
theorem backUp_undoes_next (cursor : Cursor) (hpos : IsBoundary cursor.line cursor.pos)
    (hhidden : IsBoundary cursor.line cursor.lineStart) :
    (∃ passed, slice cursor.line cursor.floor cursor.pos = .ok passed ∧
        ∀ n, ∃ offset undone, IsBoundary cursor.line offset ∧
          slice cursor.line offset cursor.pos = .ok undone ∧
          undone.length = min n passed.length ∧
          Scan.backUp n cursor = .ok ((), { cursor with pos := offset })) ∧
      (∃ ahead, sliceFrom cursor.line cursor.pos = .ok ahead ∧
        ∀ k, (∃ reached, NextCalls k cursor reached) ↔ k ≤ ahead.length) ∧
      (∀ k reached, NextCalls k cursor reached → cursor.lineStart ≤ cursor.pos →
        Scan.backUp k reached = .ok ((), cursor)) ∧
      ∀ m n, (do
          Scan.backUp m
          Scan.backUp n) cursor = Scan.backUp (m + n) cursor := by
  refine ⟨backUp_counts hpos hhidden, ?_, fun _ _ hcalls ↦ hcalls.backUp_eq hpos hhidden,
    fun m n ↦ congrFun (backUp_backUp m n) cursor⟩
  obtain ⟨before, ahead, hline, hbefore⟩ := hpos
  refine ⟨ahead, ?_, exists_nextCalls_iff hline hbefore.symm⟩
  rw [hline, ← hbefore, sliceFrom_append]

/-- Behind one hidden character, another one has been passed. -/
def Sample.behindHidden : Cursor :=
  { Cursor.ofLine ['é', '→', '\t', 'x'] 4 with pos := 5, lineStart := 2 }

theorem backUp_undoes_next_behindHidden :
    IsBoundary Sample.behindHidden.line Sample.behindHidden.pos ∧
      IsBoundary Sample.behindHidden.line Sample.behindHidden.lineStart ∧
      Sample.behindHidden.lineStart ≤ Sample.behindHidden.pos ∧
      NextCalls 2 Sample.behindHidden { Sample.behindHidden with pos := 7 } ∧
      Scan.backUp 2 { Sample.behindHidden with pos := 7 } = .ok ((), Sample.behindHidden) ∧
      ∃ passed, slice Sample.behindHidden.line 2 5 = .ok passed ∧
        ∃ offset undone, slice Sample.behindHidden.line offset 5 = .ok undone ∧
          undone.length = min 9 passed.length ∧
          Scan.backUp 9 Sample.behindHidden =
            .ok ((), { Sample.behindHidden with pos := offset }) := by
  have hpos : IsBoundary Sample.behindHidden.line Sample.behindHidden.pos :=
    ⟨['é', '→'], ['\t', 'x'], rfl, rfl⟩
  have hhidden : IsBoundary Sample.behindHidden.line Sample.behindHidden.lineStart :=
    ⟨['é'], ['→', '\t', 'x'], rfl, rfl⟩
  have hvisible : Sample.behindHidden.lineStart ≤ Sample.behindHidden.pos := by decide
  have hcalls : NextCalls 2 Sample.behindHidden { Sample.behindHidden with pos := 7 } :=
    .call rfl (.call rfl .none)
  obtain ⟨⟨passed, hpassed, hcounts⟩, _, hundoes, _⟩ :=
    backUp_undoes_next Sample.behindHidden hpos hhidden
  obtain ⟨offset, undone, _, hundone, hlength, hback⟩ := hcounts 9
  exact ⟨hpos, hhidden, hvisible, hcalls, hundoes 2 _ hcalls hvisible, passed, hpassed, offset,
    undone, hundone, hlength, hback⟩

end Scan

end LineLexer
