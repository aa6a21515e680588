import LineLexer.Proofs.Scan.Column

/-!
# Indentation behind a hidden part

The indentation of a line is counted up to its first character that is no blank, hidden or not, and
the column of the visible part is taken off. Where the hidden part is blank this is the indentation
of the visible part. Where it is not, the first such character is hidden, and the answer is zero
whatever blanks the visible part begins with. This is told of lines whose columns a word holds.
-/

namespace LineLexer

open Outcome Scan

/-- What the visible part is indented by if the hidden part counts as absent: the column of its
first character that is no blank, or of its end, less the column of its start. -/
def visibleIndentation (tabSize : Nat) (hidden visible : List Char) : Nat :=
  countColumn (hidden ++ visible) (some (byteLength hidden + firstNonSpace visible)) tabSize -
    countColumn (hidden ++ visible) (some (byteLength hidden)) tabSize

section

variable (tabSize : Nat) (hidden visible : List Char)

/-- The blanks of the visible part are counted from the column where it begins. -/
theorem visibleIndentation_eq :
    visibleIndentation tabSize hidden visible =
      columnAfter tabSize (columnAfter tabSize 0 hidden) (visible.takeWhile isSpace) -
        columnAfter tabSize 0 hidden := by
  have hcut := countColumn_append tabSize (hidden ++ visible.takeWhile isSpace)
    (visible.dropWhile isSpace)
  rw [byteLength_append, List.append_assoc, List.takeWhile_append_dropWhile,
    columnAfter_append] at hcut
  rw [visibleIndentation, countColumn_append, firstNonSpace, hcut]

/-- A visible indentation of zero means that no blank leads, if no column overflows. -/
theorem visibleIndentation_eq_zero_iff
    (hfits : (columnAfter? tabSize 0 (hidden ++ visible)).isSome) :
    visibleIndentation tabSize hidden visible = 0 ↔ ∀ c ∈ visible.head?, isSpace c = false := by
  have hnil : visible.takeWhile isSpace = [] ↔ ∀ c ∈ visible.head?, isSpace c = false := by
    cases visible <;> simp [List.takeWhile_cons]
  have hblanks : (columnAfter? tabSize 0 (hidden ++ visible.takeWhile isSpace)).isSome := by
    rw [← List.takeWhile_append_dropWhile (p := isSpace) (l := visible), ← List.append_assoc] at hfits
    exact columnAfter?_isSome_of_append hfits
  have hle := le_columnAfter_append hblanks
  rw [visibleIndentation_eq, ← hnil, ← columnAfter_append, ← List.length_eq_zero_iff]
  constructor
  · intro hzero
    omega
  · intro hzero
    rw [List.length_eq_zero_iff.1 hzero, List.append_nil, Nat.sub_self]

/-- Without tabs it does not matter in which column the visible part begins. -/
theorem visibleIndentation_of_no_tab (h : '\t' ∉ hidden ++ visible)
    (hfits : (columnAfter? tabSize 0 (hidden ++ visible)).isSome) (cursorTabSize : Nat) :
    visibleIndentation tabSize hidden visible =
      (Cursor.ofLine visible cursorTabSize).indentation := by
  have hblanks : '\t' ∉ visible.takeWhile isSpace := fun htab ↦
    h (List.mem_append_right _ ((List.takeWhile_prefix _).subset htab))
  have hlength := (List.takeWhile_prefix isSpace (l := visible)).length_le
  have hle := le_columnAfter_append hfits
  have hword := columnAfter_lt wordSize_pos tabSize (hidden ++ visible)
  calc
    visibleIndentation tabSize hidden visible = (visible.takeWhile isSpace).length := by
      rw [visibleIndentation_eq, columnAfter_of_no_tab hblanks (by omega)]
      exact Nat.add_sub_cancel_left _ _
    _ = countColumn visible none (Cursor.ofLine visible cursorTabSize).tabSize := by
      rw [countColumn_none, columnAfter_of_no_tab hblanks (by omega), Nat.zero_add]

end

variable {cursor : Cursor} {hidden visible : List Char}

/-- The indentation counts the blanks of the whole line and subtracts the column of the hidden part.
-/
theorem Cursor.indentation_eq (hline : cursor.line = hidden ++ visible)
    (hstart : cursor.lineStart = byteLength hidden) :
    cursor.indentation =
      columnAfter cursor.tabSize 0 ((hidden ++ visible).takeWhile isSpace) -
        columnAfter cursor.tabSize 0 hidden := by
  rw [Cursor.indentation, Cursor.hiddenColumn_eq, hline, hstart, countColumn_none,
    countColumn_append]

/-- Behind a blank hidden part the indentation is that of the visible part. -/
theorem Cursor.indentation_of_blank (hline : cursor.line = hidden ++ visible)
    (hstart : cursor.lineStart = byteLength hidden) (hblank : ∀ c ∈ hidden, isSpace c = true) :
    cursor.indentation = visibleIndentation cursor.tabSize hidden visible := by
  rw [Cursor.indentation_eq hline hstart, List.takeWhile_append_of_pos hblank, columnAfter_append,
    visibleIndentation_eq]

/-- Behind any other hidden part there is none. -/
theorem Cursor.indentation_of_not_blank (hline : cursor.line = hidden ++ visible)
    (hstart : cursor.lineStart = byteLength hidden)
    (hfits : (columnAfter? cursor.tabSize 0 hidden).isSome)
    (hmark : ∃ c ∈ hidden, isSpace c = false) : cursor.indentation = 0 := by
  have hshort : (hidden.takeWhile isSpace).length ≠ hidden.length := by
    intro hlength
    obtain ⟨c, hc, hother⟩ := hmark
    have hall := (List.takeWhile_prefix isSpace).eq_of_length hlength
    have hspace := List.all_takeWhile (p := isSpace) (l := hidden)
    rw [hall, List.all_eq_true] at hspace
    rw [hspace c hc] at hother
    cases hother
  have hle : columnAfter cursor.tabSize 0 (hidden.takeWhile isSpace) ≤
      columnAfter cursor.tabSize 0 hidden := by
    rw [← List.takeWhile_append_dropWhile (p := isSpace) (l := hidden)] at hfits
    have hparts := le_columnAfter_append hfits
    rw [List.takeWhile_append_dropWhile] at hparts
    exact Nat.le_trans (Nat.le_add_right _ _) hparts
  rw [Cursor.indentation_eq hline hstart, List.takeWhile_append, if_neg hshort]
  exact Nat.sub_eq_zero_of_le hle

/-- On a new line the hidden part is made of the first characters. -/
theorem hiddenAfter_ofLine (line : Line) (tabSize n : Nat) :
    Scan.hiddenAfter n (.ofLine line tabSize) =
      .ok (byteLength (line.take n), .ofLine line tabSize) := by
  have hline : (Cursor.ofLine line tabSize).line = [] ++ line := rfl
  rw [hiddenAfter_of_append hline rfl, byteLength_nil, Nat.zero_add]

/-- Let a word hold the columns of the line. With the first `n` characters hidden, the indentation is
then that of the visible part if they are all blank, and zero if they are not. So the hidden part counts as absent exactly if it is blank or
the visible part begins with no blank. On a line without tabs this is when the answer is that of the
visible part as a line of its own. -/
theorem indentation_eq_visible_iff (line : Line) (tabSize n : Nat) :
    Scan.hiddenAfter n (.ofLine line tabSize) =
        .ok (byteLength (line.take n), .ofLine line tabSize) ∧
      ∀ cursor : Cursor, cursor.line = line → cursor.lineStart = byteLength (line.take n) →
        (countColumn? line (some (byteLength line)) cursor.tabSize).isSome →
        (cursor.indentation = if (line.take n).all isSpace then
            visibleIndentation cursor.tabSize (line.take n) (line.drop n) else 0) ∧
        (cursor.indentation = visibleIndentation cursor.tabSize (line.take n) (line.drop n) ↔
          (line.take n).all isSpace = true ∨ ∀ c ∈ (line.drop n).head?, isSpace c = false) ∧
        ('\t' ∉ line →
          (cursor.indentation = (Cursor.ofLine (line.drop n) tabSize).indentation ↔
            (line.take n).all isSpace = true ∨ ∀ c ∈ (line.drop n).head?, isSpace c = false)) := by
  refine ⟨hiddenAfter_ofLine line tabSize n, fun cursor hline hstart hfits ↦ ?_⟩
  have hparts := List.take_append_drop n line
  have hwhole := countColumn?_append cursor.tabSize line []
  rw [List.append_nil] at hwhole
  rw [hwhole, ← hparts] at hfits
  have hcursor : cursor.line = line.take n ++ line.drop n := hline.trans hparts.symm
  have hvalue : cursor.indentation = if (line.take n).all isSpace then
      visibleIndentation cursor.tabSize (line.take n) (line.drop n) else 0 := by
    split
    · rename_i hblank
      exact Cursor.indentation_of_blank hcursor hstart (List.all_eq_true.1 hblank)
    · rename_i hmark
      rw [Bool.not_eq_true, List.all_eq_false] at hmark
      exact Cursor.indentation_of_not_blank hcursor hstart (columnAfter?_isSome_of_append hfits)
        (by simpa using hmark)
  have hiff : cursor.indentation =
      visibleIndentation cursor.tabSize (line.take n) (line.drop n) ↔
        (line.take n).all isSpace = true ∨ ∀ c ∈ (line.drop n).head?, isSpace c = false := by
    rw [hvalue, ← visibleIndentation_eq_zero_iff cursor.tabSize _ _ hfits]
    by_cases hblank : (line.take n).all isSpace = true
    · simp [hblank]
    · rw [if_neg hblank, or_iff_right hblank, eq_comm]
  refine ⟨hvalue, hiff, fun htab ↦ ?_⟩
  rw [← hparts] at htab
  rw [← visibleIndentation_of_no_tab cursor.tabSize _ _ htab hfits]
  exact hiff

/-- Two hidden blanks before two visible ones. -/
def Sample.hiddenBlanks : Cursor :=
  { Cursor.ofLine "    x".toList 4 with lineStart := 2 }

theorem indentation_eq_visible_iff_blank :
    Sample.hiddenBlanks.lineStart = byteLength ("    x".toList.take 2) ∧
      (countColumn? "    x".toList (some (byteLength "    x".toList)) 4).isSome ∧
      '\t' ∉ "    x".toList ∧
      Sample.hiddenBlanks.indentation = visibleIndentation 4 [' ', ' '] [' ', ' ', 'x'] ∧
      Sample.hiddenBlanks.indentation = (Cursor.ofLine [' ', ' ', 'x'] 4).indentation := by
  have htab : '\t' ∉ "    x".toList := by decide
  have hfits : (countColumn? "    x".toList (some (byteLength "    x".toList)) 4).isSome := by
    decide
  obtain ⟨_, hcursor⟩ := indentation_eq_visible_iff "    x".toList 4 2
  obtain ⟨_, hvisible, hfresh⟩ := hcursor Sample.hiddenBlanks rfl rfl hfits
  exact ⟨rfl, hfits, htab, hvisible.2 (.inl (by decide)), (hfresh htab).2 (.inl (by decide))⟩

/-- Behind a hidden mark two blanks indent the visible part, but there is no indentation. -/
theorem indentation_lost_behind_mark :
    ((Action.hide 1 [.indentation] false).run (.ofLine ['>', ' ', ' ', 'x'] 4)).1 =
        .nested [(.number 0, { Cursor.ofLine ['>', ' ', ' ', 'x'] 4 with lineStart := 1 })] false ∧
      visibleIndentation 4 ['>'] [' ', ' ', 'x'] = 2 ∧
      (Cursor.ofLine [' ', ' ', 'x'] 4).indentation = 2 :=
  ⟨rfl, by decide, by decide⟩

end LineLexer
