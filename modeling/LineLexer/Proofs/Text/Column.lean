import LineLexer.Proofs.Text.Boundary
import LineLexer.Text.Column

/-!
# Counting columns

At a boundary the column is that of the text before it. Characters are counted one after the other,
so counting may stop at any boundary and go on from the column found there. Every character moves the
column on, by a tab size at most, as long as a word holds the sum. The sum that a word does not hold
first is the one that a checked count stops at, and the one where the column falls.
-/

namespace LineLexer

/-! ## Columns after a text -/

theorem wordSize_pos : 0 < wordSize := by decide

theorem columnWidth_pos {tabSize : Nat} (h : 0 < tabSize) (column : Nat) (c : Char) :
    0 < columnWidth tabSize column c := by
  unfold columnWidth
  split
  · exact Nat.sub_pos_of_lt (Nat.mod_lt column h)
  · exact Nat.one_pos

/-- No character is wider than a tab. -/
theorem columnWidth_le {tabSize : Nat} (h : 0 < tabSize) (column : Nat) (c : Char) :
    columnWidth tabSize column c ≤ tabSize := by
  unfold columnWidth
  split
  · exact Nat.sub_le tabSize _
  · exact h

/-- A column is always a word. -/
theorem nextColumn_lt (tabSize column : Nat) (c : Char) : nextColumn tabSize column c < wordSize :=
  Nat.mod_lt _ wordSize_pos

/-- A sum that wraps around is less than one that does not. -/
theorem nextColumn_le {tabSize : Nat} (h : 0 < tabSize) (column : Nat) (c : Char) :
    nextColumn tabSize column c ≤ column + tabSize :=
  Nat.le_trans (Nat.mod_le _ _) (Nat.add_le_add_left (columnWidth_le h column c) column)

/-- A checked sum is the sum, if a word holds it. -/
theorem nextColumn?_eq_some_iff {tabSize column next : Nat} {c : Char} :
    nextColumn? tabSize column c = some next ↔
      next < wordSize ∧ next = column + columnWidth tabSize column c := by
  rw [nextColumn?, Option.ite_none_right_eq_some, Option.some_inj]
  constructor
  · rintro ⟨hsum, rfl⟩
    exact ⟨hsum, rfl⟩
  · rintro ⟨hnext, rfl⟩
    exact ⟨hnext, rfl⟩

theorem nextColumn_of_checked {tabSize column next : Nat} {c : Char}
    (h : nextColumn? tabSize column c = some next) : nextColumn tabSize column c = next := by
  obtain ⟨hnext, rfl⟩ := nextColumn?_eq_some_iff.1 h
  exact Nat.mod_eq_of_lt hnext

/-- The column falls at a sum that a word does not hold. -/
theorem nextColumn_lt_of_overflow {tabSize column : Nat} {c : Char} (htab : 0 < tabSize)
    (hword : tabSize < wordSize) (hcolumn : column < wordSize)
    (h : nextColumn? tabSize column c = none) : nextColumn tabSize column c < column := by
  have hover : wordSize ≤ column + columnWidth tabSize column c :=
    Nat.le_of_not_lt fun hsum ↦ Option.some_ne_none _ ((if_pos hsum).symm.trans h)
  have hwidth := columnWidth_le htab column c
  calc
    nextColumn tabSize column c = column + columnWidth tabSize column c - wordSize := by
      rw [nextColumn, Nat.mod_eq_sub_mod hover, Nat.mod_eq_of_lt (by omega)]
    _ < column := by omega

theorem columnAfter_append (tabSize column : Nat) (first second : List Char) :
    columnAfter tabSize column (first ++ second) =
      columnAfter tabSize (columnAfter tabSize column first) second :=
  List.foldl_append

theorem columnAfter?_append (tabSize column : Nat) (first second : List Char) :
    columnAfter? tabSize column (first ++ second) =
      (columnAfter? tabSize column first).bind fun reached ↦ columnAfter? tabSize reached second :=
  List.foldlM_append

theorem columnAfter?_cons (tabSize column : Nat) (c : Char) (text : List Char) :
    columnAfter? tabSize column (c :: text) =
      (nextColumn? (max tabSize 1) column c).bind fun next ↦ columnAfter? tabSize next text :=
  List.foldlM_cons

/-- A tab size of zero counts as one. -/
theorem columnAfter_max (tabSize column : Nat) (text : List Char) :
    columnAfter (max tabSize 1) column text = columnAfter tabSize column text := by
  rw [columnAfter, columnAfter, Nat.max_eq_left (Nat.le_max_right tabSize 1)]

theorem columnAfter?_max (tabSize column : Nat) (text : List Char) :
    columnAfter? (max tabSize 1) column text = columnAfter? tabSize column text := by
  rw [columnAfter?, columnAfter?, Nat.max_eq_left (Nat.le_max_right tabSize 1)]

theorem columnAfter_lt {column : Nat} (hcolumn : column < wordSize) (tabSize : Nat)
    (text : List Char) : columnAfter tabSize column text < wordSize := by
  induction text generalizing column with
  | nil => exact hcolumn
  | cons c text ih => exact ih (nextColumn_lt _ column c)

/-- A column is at most so many tabs. -/
theorem columnAfter_le (tabSize column : Nat) (text : List Char) :
    columnAfter tabSize column text ≤ column + text.length * max tabSize 1 := by
  induction text generalizing column with
  | nil => exact Nat.le_add_right column _
  | cons c text ih =>
    have hle := nextColumn_le (Nat.le_max_right tabSize 1) column c
    calc
      columnAfter tabSize (nextColumn (max tabSize 1) column c) text
        ≤ nextColumn (max tabSize 1) column c + text.length * max tabSize 1 := ih _
      _ ≤ column + (c :: text).length * max tabSize 1 := by
        rw [List.length_cons, Nat.succ_mul]
        omega

/-! ## Columns that fit -/

/-- What a checked count finds is what any count finds. -/
theorem columnAfter_of_checked {tabSize column last : Nat} {text : List Char}
    (h : columnAfter? tabSize column text = some last) :
    columnAfter tabSize column text = last := by
  induction text generalizing column with
  | nil => exact Option.some_inj.1 h
  | cons c text ih =>
    rw [columnAfter?_cons] at h
    obtain ⟨next, hnext, hrest⟩ := Option.bind_eq_some_iff.1 h
    calc
      columnAfter tabSize column (c :: text) = columnAfter tabSize next text := by
        rw [← nextColumn_of_checked hnext]
        rfl
      _ = last := ih hrest

/-- Every character takes a column at least. -/
theorem add_length_le_of_checked {tabSize column last : Nat} {text : List Char}
    (h : columnAfter? tabSize column text = some last) : column + text.length ≤ last := by
  induction text generalizing column with
  | nil => exact Nat.le_of_eq (Option.some_inj.1 h)
  | cons c text ih =>
    rw [columnAfter?_cons] at h
    obtain ⟨next, hnext, hrest⟩ := Option.bind_eq_some_iff.1 h
    have hwidth := columnWidth_pos (Nat.le_max_right tabSize 1) column c
    calc
      column + (c :: text).length ≤ next + text.length := by
        rw [(nextColumn?_eq_some_iff.1 hnext).2, List.length_cons]
        omega
      _ ≤ last := ih hrest

/-- A text is short enough if a word holds a tab size for each of its characters. -/
theorem columnAfter?_isSome {tabSize column : Nat} {text : List Char}
    (h : column + text.length * max tabSize 1 < wordSize) :
    (columnAfter? tabSize column text).isSome := by
  induction text generalizing column with
  | nil => rfl
  | cons c text ih =>
    rw [List.length_cons, Nat.succ_mul] at h
    have hwidth := columnWidth_le (Nat.le_max_right tabSize 1) column c
    have hnext : nextColumn? (max tabSize 1) column c =
        some (column + columnWidth (max tabSize 1) column c) :=
      nextColumn?_eq_some_iff.2 ⟨by omega, rfl⟩
    rw [columnAfter?_cons, hnext]
    exact ih (by omega)

/-- A text fits if a longer one does. -/
theorem columnAfter?_isSome_of_append {tabSize column : Nat} {first second : List Char}
    (h : (columnAfter? tabSize column (first ++ second)).isSome) :
    (columnAfter? tabSize column first).isSome := by
  rw [columnAfter?_append] at h
  exact Option.isSome_of_isSome_bind h

/-- Where nothing overflows every character takes a column at least. -/
theorem le_columnAfter_append {tabSize column : Nat} {first second : List Char}
    (h : (columnAfter? tabSize column (first ++ second)).isSome) :
    columnAfter tabSize column first + second.length ≤
      columnAfter tabSize column (first ++ second) := by
  obtain ⟨last, hlast⟩ := Option.isSome_iff_exists.1 h
  have hparts := hlast
  rw [columnAfter?_append] at hparts
  obtain ⟨reached, hfirst, hsecond⟩ := Option.bind_eq_some_iff.1 hparts
  calc
    columnAfter tabSize column first + second.length = reached + second.length := by
      rw [columnAfter_of_checked hfirst]
    _ ≤ last := add_length_le_of_checked hsecond
    _ = columnAfter tabSize column (first ++ second) := (columnAfter_of_checked hlast).symm

/-- Without tabs the column is a count of characters. -/
theorem columnAfter_of_no_tab {tabSize column : Nat} {text : List Char} (h : '\t' ∉ text)
    (hfits : column + text.length < wordSize) :
    columnAfter tabSize column text = column + text.length := by
  induction text generalizing column with
  | nil => rfl
  | cons c text ih =>
    obtain ⟨hc, htext⟩ := not_or.1 (mt List.mem_cons.2 h)
    rw [List.length_cons] at hfits
    have hnext : nextColumn (max tabSize 1) column c = column + 1 := by
      rw [nextColumn, columnWidth, if_neg (Ne.symm hc), Nat.mod_eq_of_lt (by omega)]
    calc
      columnAfter tabSize column (c :: text) = columnAfter tabSize (column + 1) text := by
        rw [← hnext]
        rfl
      _ = column + (c :: text).length := by
        rw [ih htext (by omega), List.length_cons]
        omega

/-- A text fits exactly if the column grows with every character of it. -/
theorem columnAfter?_isSome_iff_grows {tabSize column : Nat} (hword : tabSize < wordSize)
    (hcolumn : column < wordSize) (text : List Char) :
    (columnAfter? tabSize column text).isSome ↔
      ∀ first middle rest, text = first ++ (middle ++ rest) → middle ≠ [] →
        columnAfter tabSize column first < columnAfter tabSize column (first ++ middle) := by
  constructor
  · rintro hfits first middle rest rfl hmiddle
    rw [← List.append_assoc] at hfits
    have hle := le_columnAfter_append (columnAfter?_isSome_of_append hfits)
    have hpos := List.length_pos_iff.2 hmiddle
    omega
  · intro hgrows
    induction text generalizing column with
    | nil => rfl
    | cons c text ih =>
      have hlt : column < nextColumn (max tabSize 1) column c :=
        hgrows [] [c] text rfl (List.cons_ne_nil c [])
      rw [columnAfter?_cons]
      cases hnext : nextColumn? (max tabSize 1) column c with
      | none =>
        have hfalls := nextColumn_lt_of_overflow (Nat.le_max_right tabSize 1)
          (Nat.max_lt.2 ⟨hword, by decide⟩) hcolumn hnext
        exact absurd hlt (Nat.lt_asymm hfalls)
      | some next =>
        obtain rfl := nextColumn_of_checked hnext
        refine ih (nextColumn_lt _ column c) fun first middle rest htext hmiddle ↦ ?_
        exact hgrows (c :: first) middle rest (by rw [htext]; rfl) hmiddle

/-! ## Columns at boundaries -/

/-- From one boundary to the next, the text between them is counted. -/
theorem countedText_append (before middle after : List Char) :
    countedText (before ++ (middle ++ after)) (some (byteLength before + byteLength middle))
      (byteLength before) = middle := by
  have hlast : min (byteLength before + byteLength middle)
      (byteLength (before ++ (middle ++ after))) = byteLength before + byteLength middle := by
    simp only [byteLength_append]
    omega
  rw [countedText, Option.getD_some, hlast]
  by_cases hmiddle : middle = []
  · subst hmiddle
    exact if_pos (Nat.le_refl _)
  · have hpos := byteLength_pos_iff.2 hmiddle
    rw [if_neg (by omega), slice?_append, Option.getD_some]

theorem countedText_zero_append (before after : List Char) :
    countedText (before ++ after) (some (byteLength before)) 0 = before := by
  have h := countedText_append [] before after
  rwa [byteLength_nil, Nat.zero_add] at h

theorem countColumn_append (tabSize : Nat) (before after : List Char) :
    countColumn (before ++ after) (some (byteLength before)) tabSize =
      columnAfter tabSize 0 before := by
  rw [countColumn, countColumnFrom, countedText_zero_append]

theorem countColumn?_append (tabSize : Nat) (before after : List Char) :
    countColumn? (before ++ after) (some (byteLength before)) tabSize =
      columnAfter? tabSize 0 before := by
  rw [countColumn?, countColumnFrom?, countedText_zero_append]

theorem countColumn_zero (tabSize : Nat) (text : List Char) :
    countColumn text (some 0) tabSize = 0 :=
  countColumn_append tabSize [] text

theorem countColumn?_zero (tabSize : Nat) (text : List Char) :
    countColumn? text (some 0) tabSize = some 0 :=
  countColumn?_append tabSize [] text

/-- The indentation is the column behind the blanks that the text begins with. -/
theorem countedText_none (text : List Char) : countedText text none 0 = text.takeWhile isSpace := by
  have h := countedText_zero_append (text.takeWhile isSpace) (text.dropWhile isSpace)
  rwa [List.takeWhile_append_dropWhile] at h

/-- Without a place to stop at the leading blanks are counted. -/
theorem countColumn_none (tabSize : Nat) (text : List Char) :
    countColumn text none tabSize = columnAfter tabSize 0 (text.takeWhile isSpace) := by
  rw [countColumn, countColumnFrom, countedText_none]

theorem countColumn?_none (tabSize : Nat) (text : List Char) :
    countColumn? text none tabSize = columnAfter? tabSize 0 (text.takeWhile isSpace) := by
  rw [countColumn?, countColumnFrom?, countedText_none]

/-- Where no check fails the count is the checked one. -/
theorem countColumn_of_checked {text : List Char} {last : Option Nat} {tabSize column : Nat}
    (h : countColumn? text last tabSize = some column) : countColumn text last tabSize = column :=
  columnAfter_of_checked h

/-- The text between two boundaries is what is counted from one to the other. -/
theorem countedText_split {text : List Char} {first middle last : Nat}
    (hfirst : IsBoundary text first) (hmiddle : IsBoundary text middle)
    (hlast : IsBoundary text last) (hle : first ≤ middle) (hle' : middle ≤ last) :
    countedText text (some last) first =
      countedText text (some middle) first ++ countedText text (some last) middle := by
  obtain ⟨before, counted, rest, htext, rfl, rfl⟩ := hfirst.exists_middle hmiddle hle
  obtain ⟨passed, further, after, rfl, hpassed, rfl⟩ := hmiddle.exists_middle hlast hle'
  obtain ⟨rfl, rfl⟩ : passed = before ++ counted ∧ further ++ after = rest :=
    append_inj_of_byteLength (by rw [htext, List.append_assoc])
      (by rw [hpassed, byteLength_append])
  have hstop := countedText_append before counted (further ++ after)
  have hresume := countedText_append (before ++ counted) further after
  have hthrough := countedText_append before (counted ++ further) after
  simp only [byteLength_append, List.append_assoc, ← Nat.add_assoc] at hstop hresume hthrough ⊢
  rw [hstop, hresume, hthrough]

/-- Counting may stop at a boundary and go on from the column found there. -/
theorem countColumnFrom_countColumn {text : List Char} {first last : Nat} (tabSize : Nat)
    (hfirst : IsBoundary text first) (hlast : IsBoundary text last) (hle : first ≤ last) :
    countColumnFrom text (some last) tabSize first (countColumn text (some first) tabSize) =
      countColumn text (some last) tabSize := by
  have hsplit := countedText_split (isBoundary_zero text) hfirst hlast (Nat.zero_le first) hle
  calc
    _ = columnAfter tabSize 0 (countedText text (some first) 0 ++ countedText text (some last) first) :=
      (columnAfter_append tabSize 0 _ _).symm
    _ = countColumn text (some last) tabSize := by
      rw [← hsplit]
      rfl

/-- A checked count that stops and goes on finds a column exactly if one that does not stop does. -/
theorem countColumnFrom?_countColumn? {text : List Char} {first last : Nat} (tabSize : Nat)
    (hfirst : IsBoundary text first) (hlast : IsBoundary text last) (hle : first ≤ last) :
    ((countColumn? text (some first) tabSize).bind fun column ↦
        countColumnFrom? text (some last) tabSize first column) =
      countColumn? text (some last) tabSize := by
  have hsplit := countedText_split (isBoundary_zero text) hfirst hlast (Nat.zero_le first) hle
  calc
    _ = columnAfter? tabSize 0
        (countedText text (some first) 0 ++ countedText text (some last) first) :=
      (columnAfter?_append tabSize 0 _ _).symm
    _ = countColumn? text (some last) tabSize := by
      rw [← hsplit]
      rfl

/-- The count up to a boundary fits exactly if the column grows from boundary to boundary up to
there. -/
theorem countColumn?_isSome_iff_grows {text : List Char} {last tabSize : Nat}
    (hword : tabSize < wordSize) (hlast : IsBoundary text last) :
    (countColumn? text (some last) tabSize).isSome ↔
      ∀ first middle, IsBoundary text first → IsBoundary text middle → first < middle →
        middle ≤ last →
          countColumn text (some first) tabSize < countColumn text (some middle) tabSize := by
  obtain ⟨before, after, rfl, rfl⟩ := hlast
  rw [countColumn?_append, columnAfter?_isSome_iff_grows hword wordSize_pos]
  constructor
  · intro hgrows first middle hfirst hmiddle hlt hle
    obtain ⟨passed, counted, rest, rfl, rfl, rfl⟩ :=
      (hfirst.of_append (Nat.le_trans (Nat.le_of_lt hlt) hle)).exists_middle
        (hmiddle.of_append hle) (Nat.le_of_lt hlt)
    have hcounted : counted ≠ [] := byteLength_pos_iff.1 (by omega)
    have hbefore := countColumn_append tabSize passed (counted ++ (rest ++ after))
    have hbehind := countColumn_append tabSize (passed ++ counted) (rest ++ after)
    rw [byteLength_append] at hbehind
    simp only [List.append_assoc] at hbefore hbehind ⊢
    rw [hbefore, hbehind]
    exact hgrows passed counted rest rfl hcounted
  · rintro hgrows first middle rest rfl hmiddle
    have hpos := byteLength_pos_iff.2 hmiddle
    have hbefore := countColumn_append tabSize first (middle ++ (rest ++ after))
    have hbehind := countColumn_append tabSize (first ++ middle) (rest ++ after)
    rw [byteLength_append] at hbehind
    simp only [List.append_assoc, byteLength_append] at hgrows hbefore hbehind
    rw [← hbefore, ← hbehind]
    exact hgrows _ _ (isBoundary_append first _) (isBoundary_add first middle _) (by omega) (by omega)

/-- The column of a boundary is at most a tab size for each character before it. Where it fits it is
the number of these characters at least, and it does fit if a word holds a tab size for each. -/
theorem countColumn_bounds {text : List Char} {last : Nat} (tabSize : Nat)
    (hlast : IsBoundary text last) :
    ∃ before, slice? text 0 last = some before ∧
      countColumn text (some last) tabSize ≤ before.length * max tabSize 1 ∧
      (before.length * max tabSize 1 < wordSize → (countColumn? text (some last) tabSize).isSome) ∧
      ∀ column, countColumn? text (some last) tabSize = some column →
        countColumn text (some last) tabSize = column ∧ before.length ≤ column := by
  obtain ⟨before, after, rfl, rfl⟩ := hlast
  have hslice := slice?_append [] before after
  have hupper := columnAfter_le tabSize 0 before
  rw [List.nil_append, byteLength_nil, Nat.zero_add] at hslice
  rw [Nat.zero_add] at hupper
  refine ⟨before, hslice, ?_, fun hshort ↦ ?_, fun column hcolumn ↦
    ⟨countColumn_of_checked hcolumn, ?_⟩⟩
  · rw [countColumn_append]
    exact hupper
  · rw [countColumn?_append]
    exact columnAfter?_isSome (by rwa [Nat.zero_add])
  · rw [countColumn?_append] at hcolumn
    have hlower := add_length_le_of_checked hcolumn
    rwa [Nat.zero_add] at hlower

/-- Every column of a text fits if a word holds a tab size for each of its characters. -/
theorem countColumn?_isSome_of_short {text : List Char} {last tabSize : Nat}
    (hlast : IsBoundary text last) (hshort : text.length * max tabSize 1 < wordSize) :
    (countColumn? text (some last) tabSize).isSome := by
  obtain ⟨before, after, rfl, rfl⟩ := hlast
  have hle : before.length * max tabSize 1 ≤ (before ++ after).length * max tabSize 1 :=
    Nat.mul_le_mul_right _ (by simp)
  rw [countColumn?_append]
  exact columnAfter?_isSome (by omega)

/-- The blanks of a short line do not overflow. -/
theorem countColumn?_none_isSome_of_short {text : List Char} {tabSize : Nat}
    (hshort : text.length * max tabSize 1 < wordSize) :
    (countColumn? text none tabSize).isSome := by
  have hle : (text.takeWhile isSpace).length * max tabSize 1 ≤ text.length * max tabSize 1 :=
    Nat.mul_le_mul_right _ (List.takeWhile_prefix isSpace).length_le
  rw [countColumn?_none]
  exact columnAfter?_isSome (by omega)

/-- Counting may stop at any boundary: resumed from the column found there, it comes to the same column
as if it had not stopped, and a checked count overflows exactly if the one that does not stop does.
The column of a boundary is at most a tab size for each character before it, where a tab size of zero
counts as one. The column grows strictly from boundary to boundary up to the last one exactly if the
checked count up to there does not overflow. Every character then takes one column at least, and
nothing overflows where a word holds a tab size for each character. -/
theorem countColumn_resumes (text : List Char) (tabSize : Nat) :
    (∀ last first column,
        countColumnFrom text last 0 first column = countColumnFrom text last 1 first column ∧
        countColumnFrom? text last 0 first column = countColumnFrom? text last 1 first column) ∧
      (∀ first last, IsBoundary text first → IsBoundary text last → first ≤ last →
        countColumnFrom text (some last) tabSize first (countColumn text (some first) tabSize) =
            countColumn text (some last) tabSize ∧
          ((countColumn? text (some first) tabSize).bind fun column ↦
              countColumnFrom? text (some last) tabSize first column) =
            countColumn? text (some last) tabSize) ∧
      (∀ last, IsBoundary text last → tabSize < wordSize →
        ((countColumn? text (some last) tabSize).isSome ↔
          ∀ first middle, IsBoundary text first → IsBoundary text middle → first < middle →
            middle ≤ last →
              countColumn text (some first) tabSize < countColumn text (some middle) tabSize)) ∧
      ∀ last, IsBoundary text last → ∃ before, slice? text 0 last = some before ∧
        countColumn text (some last) tabSize ≤ before.length * max tabSize 1 ∧
        (before.length * max tabSize 1 < wordSize →
          (countColumn? text (some last) tabSize).isSome) ∧
        ∀ column, countColumn? text (some last) tabSize = some column →
          countColumn text (some last) tabSize = column ∧ before.length ≤ column := by
  refine ⟨fun last first column ↦ ⟨?_, ?_⟩, fun first last hfirst hlast hle ↦ ⟨?_, ?_⟩,
    fun last hlast hword ↦ ?_, fun last hlast ↦ ?_⟩
  · exact (columnAfter_max 0 column _).symm
  · exact (columnAfter?_max 0 column _).symm
  · exact countColumnFrom_countColumn tabSize hfirst hlast hle
  · exact countColumnFrom?_countColumn? tabSize hfirst hlast hle
  · exact countColumn?_isSome_iff_grows hword hlast
  · exact countColumn_bounds tabSize hlast

/-- A tab between the two boundaries, after a character of two bytes. -/
theorem countColumn_resumes_tab :
    IsBoundary ['é', '	', '→', 'x'] 2 ∧ IsBoundary ['é', '	', '→', 'x'] 6 ∧ 4 < wordSize ∧
      countColumnFrom ['é', '	', '→', 'x'] (some 6) 4 2
          (countColumn ['é', '	', '→', 'x'] (some 2) 4) = 5 ∧
      countColumn? ['é', '	', '→', 'x'] (some 6) 4 = some 5 ∧
      countColumn ['é', '	', '→', 'x'] (some 2) 4 <
        countColumn ['é', '	', '→', 'x'] (some 6) 4 ∧
      ∃ before, slice? ['é', '	', '→', 'x'] 0 6 = some before ∧ before.length ≤ 5 ∧
        5 ≤ before.length * 4 := by
  have hfirst : IsBoundary ['é', '	', '→', 'x'] 2 := ⟨['é'], _, rfl, rfl⟩
  have hlast : IsBoundary ['é', '	', '→', 'x'] 6 := ⟨['é', '	', '→'], _, rfl, rfl⟩
  have hword : 4 < wordSize := by decide
  have hchecked : countColumn? ['é', '	', '→', 'x'] (some 6) 4 = some 5 := by decide
  obtain ⟨_, hresume, hgrows, hbounds⟩ := countColumn_resumes ['é', '	', '→', 'x'] 4
  obtain ⟨before, hslice, hupper, _, hfits⟩ := hbounds 6 hlast
  obtain ⟨hcolumn, hlower⟩ := hfits 5 hchecked
  rw [hcolumn] at hupper
  refine ⟨hfirst, hlast, hword, ?_, hchecked, ?_, before, hslice, hlower, hupper⟩
  · rw [(hresume 2 6 hfirst hlast (by decide)).1, hcolumn]
  · exact (hgrows 6 hlast hword).1 (by rw [hchecked]; rfl) 2 6 hfirst hlast (by decide) (by decide)

/-- Behind two tabs that take half the word each, less one column, the second of two further
characters is one that the word does not hold: the column falls back to zero. -/
theorem countColumn_falls_at_overflow :
    IsBoundary ['	', '	', 'a', 'b'] 3 ∧ IsBoundary ['	', '	', 'a', 'b'] 4 ∧
      countColumn ['	', '	', 'a', 'b'] (some 3) 9223372036854775807 = 18446744073709551615 ∧
      countColumn ['	', '	', 'a', 'b'] (some 4) 9223372036854775807 = 0 ∧
      countColumn? ['	', '	', 'a', 'b'] (some 4) 9223372036854775807 = none :=
  ⟨⟨['	', '	', 'a'], _, rfl, rfl⟩, isBoundary_byteLength ['	', '	', 'a', 'b'], by decide,
    by decide, by decide⟩

end LineLexer
