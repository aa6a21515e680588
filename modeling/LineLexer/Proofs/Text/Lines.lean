import LineLexer.Text.Lines

/-!
# Lines and their separators

Splitting a text into lines forgets which separator stood where, and nothing else: put together
again with line feeds, the lines are the text with every separator made a line feed. The last line
is empty exactly when the text is empty or ends in a separator.
-/

namespace LineLexer

/-- The text with a line feed for every line separator. -/
def unifySeparators : List Char → List Char
  | [] => []
  | '\r' :: '\n' :: text => '\n' :: unifySeparators text
  | c :: text => (if c = '\r' then '\n' else c) :: unifySeparators text

def EndsInSeparator (text : List Char) : Prop :=
  text.getLast? = some '\n' ∨ text.getLast? = some '\r'

instance (text : List Char) : Decidable (EndsInSeparator text) :=
  inferInstanceAs (Decidable (_ ∨ _))

theorem unifySeparators_cons_ne_nil (c : Char) (text : List Char) :
    unifySeparators (c :: text) ≠ [] := by
  unfold unifySeparators
  split <;> simp_all

theorem endsInSeparator_cons_of_ne_nil (c : Char) {text : List Char} (h : text ≠ []) :
    EndsInSeparator (c :: text) ↔ EndsInSeparator text := by
  obtain ⟨d, rest, rfl⟩ := List.exists_cons_of_ne_nil h
  rw [EndsInSeparator, EndsInSeparator, List.getLast?_cons_cons]

/-- A separator ends the line before it, whatever follows. -/
theorem endsInSeparator_separator_cons {c : Char} (hc : c = '\n' ∨ c = '\r') (text : List Char) :
    EndsInSeparator (c :: text) ↔ text = [] ∨ EndsInSeparator text := by
  by_cases htext : text = []
  · subst htext
    simpa [EndsInSeparator] using hc
  · simp [endsInSeparator_cons_of_ne_nil c htext, htext]

/-- The first line, and each line after it behind a line feed. -/
theorem splitFirstLine_join (text : List Char) :
    (splitFirstLine text).1 ++ (splitFirstLine text).2.flatMap ('\n' :: ·) =
      unifySeparators text := by
  fun_induction splitFirstLine text with
  | case1 => rfl
  | case2 text line lines hsplit ih =>
    rw [hsplit] at ih
    rw [unifySeparators, ← ih]
    rfl
  | case3 c text hpair line lines hsplit hc ih =>
    rw [hsplit] at ih
    have hfeed : (if c = '\r' then '\n' else c) = '\n' := by
      rcases hc with rfl | rfl <;> rfl
    rw [unifySeparators, hfeed, ← ih]
    · rfl
    · exact hpair
  | case4 c text hpair line lines hsplit hc ih =>
    rw [hsplit] at ih
    rw [unifySeparators, if_neg fun h ↦ hc (.inr h), ← ih]
    · rfl
    · exact hpair

/-- The last line is empty exactly if a separator ends the text, or there is no text. -/
theorem getLast?_splitLines (text : List Char) :
    (splitLines text).getLast? = some [] ↔ text = [] ∨ EndsInSeparator text := by
  unfold splitLines
  fun_induction splitFirstLine text with
  | case1 => simp
  | case2 text line lines hsplit ih =>
    rw [hsplit] at ih
    rw [List.getLast?_cons_cons, ih, endsInSeparator_cons_of_ne_nil _ (List.cons_ne_nil _ _),
      endsInSeparator_separator_cons (.inl rfl)]
    simp
  | case3 c text hpair line lines hsplit hc ih =>
    rw [hsplit] at ih
    rw [List.getLast?_cons_cons, ih, endsInSeparator_separator_cons hc]
    simp
  | case4 c text hpair line lines hsplit hc ih =>
    have hjoin := splitFirstLine_join text
    rw [hsplit] at ih hjoin
    cases lines with
    | nil =>
      -- Without a separator in the rest, the rest is the line.
      have hnot : ¬ EndsInSeparator (c :: text) := by
        cases text with
        | nil => simpa [EndsInSeparator] using hc
        | cons d text =>
          rw [endsInSeparator_cons_of_ne_nil c (List.cons_ne_nil d text)]
          intro hends
          have hline : line = [] := by simpa using ih.2 (.inr hends)
          subst hline
          exact unifySeparators_cons_ne_nil d text hjoin.symm
      simp [hnot]
    | cons other lines =>
      have htext : text ≠ [] := by
        rintro rfl
        simp [unifySeparators] at hjoin
      rw [List.getLast?_cons_cons] at ih ⊢
      rw [ih, endsInSeparator_cons_of_ne_nil c htext]
      simp [htext]

/-- A line feed after every line is a line feed before every line but the first, and one more. -/
theorem flatMap_append_lineFeed (line : Line) (lines : List Line) :
    (line :: lines).flatMap (· ++ ['\n']) = (line ++ lines.flatMap ('\n' :: ·)) ++ ['\n'] := by
  induction lines generalizing line with
  | nil => simp
  | cons other lines ih =>
    rw [List.flatMap_cons, ih, List.flatMap_cons]
    simp

/-- The lines of a text, each with a line feed after it, are the text with unified separators and
one more line feed. -/
theorem flatMap_splitLines (text : List Char) :
    (splitLines text).flatMap (· ++ ['\n']) = unifySeparators text ++ ['\n'] := by
  rw [← splitFirstLine_join]
  exact flatMap_append_lineFeed _ _

end LineLexer
