import LineLexer.Text.Line

/-!
# Boundaries and slices

Offsets that fall between two characters, and what is cut out of a text at such offsets.
-/

namespace LineLexer

theorem byteLength_eq_zero_iff {text : List Char} : byteLength text = 0 ↔ text = [] := by
  cases text with
  | nil => simp
  | cons c text =>
    have hpos := Char.utf8Size_pos c
    simp only [byteLength_cons, reduceCtorEq, iff_false]
    omega

theorem byteLength_pos_iff {text : List Char} : 0 < byteLength text ↔ text ≠ [] := by
  rw [Nat.pos_iff_ne_zero, ne_eq, byteLength_eq_zero_iff]

/-! ## Boundaries -/

/-- A text and the one behind it meet at a boundary. -/
theorem isBoundary_append (before after : List Char) :
    IsBoundary (before ++ after) (byteLength before) :=
  ⟨before, after, rfl, rfl⟩

theorem isBoundary_add (before text after : List Char) :
    IsBoundary (before ++ (text ++ after)) (byteLength before + byteLength text) := by
  rw [← List.append_assoc, ← byteLength_append]
  exact isBoundary_append (before ++ text) after

theorem isBoundary_zero (text : List Char) : IsBoundary text 0 := ⟨[], text, rfl, rfl⟩

theorem isBoundary_byteLength (text : List Char) : IsBoundary text (byteLength text) :=
  ⟨text, [], by simp, rfl⟩

theorem IsBoundary.le_byteLength {text : List Char} {offset : Nat} (h : IsBoundary text offset) :
    offset ≤ byteLength text := by
  obtain ⟨before, after, rfl, rfl⟩ := h
  simp

/-- A text is cut in one way at an offset. -/
theorem append_inj_of_byteLength {before after before' after' : List Char}
    (h : before ++ after = before' ++ after') (hlength : byteLength before = byteLength before') :
    before = before' ∧ after = after' := by
  have hcut := cutAt?_append before after
  rw [h, hlength, cutAt?_append] at hcut
  obtain ⟨hbefore, hafter⟩ := Prod.mk.inj (Option.some.inj hcut)
  exact ⟨hbefore.symm, hafter.symm⟩

/-- Two boundaries in order cut a text into three parts. -/
theorem IsBoundary.exists_middle {text : List Char} {first last : Nat} (hfirst : IsBoundary text first)
    (hlast : IsBoundary text last) (hle : first ≤ last) :
    ∃ before middle after, text = before ++ (middle ++ after) ∧ byteLength before = first ∧
      byteLength before + byteLength middle = last := by
  obtain ⟨before, rest, rfl, rfl⟩ := hfirst
  obtain ⟨before', after, heq, rfl⟩ := hlast
  rcases List.append_eq_append_iff.1 heq with ⟨middle, rfl, rfl⟩ | ⟨middle, rfl, rfl⟩
  · exact ⟨before, middle, after, rfl, rfl, by simp⟩
  · have hnil : middle = [] := byteLength_eq_zero_iff.1 (by simp at hle; omega)
    subst hnil
    exact ⟨before', [], rest, by simp, by simp, by simp⟩

/-- A boundary of a text is one of what the text begins with if it lies in there. -/
theorem IsBoundary.of_append {before after : List Char} {offset : Nat}
    (h : IsBoundary (before ++ after) offset) (hle : offset ≤ byteLength before) :
    IsBoundary before offset := by
  obtain ⟨first, middle, rest, htext, rfl, hlength⟩ :=
    h.exists_middle (isBoundary_append before after) hle
  rw [← byteLength_append] at hlength
  rw [← List.append_assoc] at htext
  obtain ⟨rfl, _⟩ := append_inj_of_byteLength htext hlength.symm
  exact isBoundary_append first middle

/-! ## Slices -/

theorem sliceFrom_append (before after : List Char) :
    sliceFrom (before ++ after) (byteLength before) = .ok after := by
  rw [sliceFrom, cutAt?_append]

theorem slice?_append (before middle after : List Char) :
    slice? (before ++ (middle ++ after)) (byteLength before)
      (byteLength before + byteLength middle) = some middle := by
  have hguard : (guard (byteLength before ≤ byteLength before + byteLength middle) : Option Unit) =
      some () := if_pos (Nat.le_add_right _ _)
  rw [slice?, hguard]
  simp [cutAt?_append]

/-- The part between two boundaries is a slice. -/
theorem slice_append (before middle after : List Char) :
    slice (before ++ (middle ++ after)) (byteLength before)
      (byteLength before + byteLength middle) = .ok middle := by
  rw [slice, slice?_append]

/-- Slices are exactly the parts between two boundaries. -/
theorem slice?_eq_some_iff {text middle : List Char} {first last : Nat} :
    slice? text first last = some middle ↔
      ∃ before after, text = before ++ (middle ++ after) ∧ byteLength before = first ∧
        byteLength before + byteLength middle = last := by
  constructor
  · intro h
    obtain ⟨_, hguard, h⟩ := Option.bind_eq_some_iff.1 h
    obtain ⟨⟨before, rest⟩, hfirst, h⟩ := Option.bind_eq_some_iff.1 h
    obtain ⟨⟨_, after⟩, hlast, h⟩ := Option.bind_eq_some_iff.1 h
    cases h
    have hle : first ≤ last := by
      refine Decidable.byContradiction fun hnot ↦ ?_
      have hnone : (guard (first ≤ last) : Option Unit) = none := if_neg hnot
      rw [hnone] at hguard
      cases hguard
    obtain ⟨rfl, rfl⟩ := eq_append_of_cutAt? hfirst
    obtain ⟨rfl, hlength⟩ := eq_append_of_cutAt? hlast
    exact ⟨before, after, rfl, rfl, by omega⟩
  · rintro ⟨before, after, rfl, rfl, rfl⟩
    exact slice?_append before middle after

theorem slice_eq_ok_iff {text middle : List Char} {first last : Nat} :
    slice text first last = .ok middle ↔
      ∃ before after, text = before ++ (middle ++ after) ∧ byteLength before = first ∧
        byteLength before + byteLength middle = last := by
  rw [← slice?_eq_some_iff, slice]
  cases slice? text first last <;> simp

end LineLexer
