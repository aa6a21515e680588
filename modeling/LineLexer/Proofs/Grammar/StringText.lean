import LineLexer.Grammar.CFamily
import LineLexer.Proofs.Scan.Forward

/-!
# The text of a string

A string ends at the first delimiter that no backslash escapes. The scan keeps one bit, whether the
next character is escaped; it is the parity of the backslashes right before that character, counted
from the start of the string on its line. A string without an end on its line goes on where its last
backslash escapes the end of the line, where the dialect lets strings go on, or in backquotes.
-/

namespace LineLexer.CFamily

open Scan

/-! ## Escapes -/

def backslashesAtEnd (text : List Char) : Nat := (text.reverse.takeWhile (· = '\\')).length

/-- The text ends in an odd number of backslashes: the last one escapes what comes next. -/
def Escapes (text : List Char) : Prop := backslashesAtEnd text % 2 = 1

instance (text : List Char) : Decidable (Escapes text) := inferInstanceAs (Decidable (_ = _))

theorem not_escapes_nil : ¬ Escapes [] := by decide

/-- A backslash lengthens the run at the end, and every other character ends it. -/
theorem backslashesAtEnd_concat (text : List Char) (c : Char) :
    backslashesAtEnd (text ++ [c]) = if c = '\\' then backslashesAtEnd text + 1 else 0 := by
  rw [backslashesAtEnd, List.reverse_append, List.reverse_singleton, List.singleton_append,
    List.takeWhile_cons]
  by_cases hc : c = '\\' <;> simp [hc, backslashesAtEnd]

/-- A backslash escapes what comes next unless it is escaped itself. -/
theorem escapes_concat (text : List Char) (c : Char) :
    Escapes (text ++ [c]) ↔ c = '\\' ∧ ¬ Escapes text := by
  unfold Escapes
  rw [backslashesAtEnd_concat]
  by_cases hc : c = '\\'
  · rw [if_pos hc, and_iff_right hc]
    omega
  · simp [hc]

/-- What escapes ends in a backslash. -/
theorem Escapes.getLast? {text : List Char} (h : Escapes text) : text.getLast? = some '\\' := by
  rcases List.eq_nil_or_concat text with rfl | ⟨before, c, rfl⟩
  · exact absurd h not_escapes_nil
  · rw [List.concat_eq_append] at h ⊢
    rw [List.getLast?_concat, ((escapes_concat before c).1 h).1]

/-! ## The first delimiter that is not escaped -/

/-- Every delimiter in the text is escaped. -/
def NeverCloses (delimiter : Char) (text : List Char) : Prop :=
  ∀ before after, text = before ++ delimiter :: after → Escapes before

/-- The first delimiter of the text that is not escaped comes after `body`. -/
structure ClosesAfter (delimiter : Char) (text body after : List Char) : Prop where
  text_eq : text = body ++ delimiter :: after
  not_escapes : ¬ Escapes body
  neverCloses : NeverCloses delimiter body

variable {delimiter : Char} {text body after body' after' : List Char}

theorem neverCloses_nil : NeverCloses delimiter [] := by
  intro before after htext
  exact absurd htext.symm (by simp)

/-- A string stays open over a further character unless it is an unescaped delimiter. -/
theorem NeverCloses.concat (h : NeverCloses delimiter text) {c : Char}
    (hc : c = delimiter → Escapes text) : NeverCloses delimiter (text ++ [c]) := by
  intro before after htext
  rcases List.eq_nil_or_concat after with rfl | ⟨between, d, rfl⟩
  · obtain ⟨rfl, hlast⟩ := List.append_inj' htext rfl
    exact hc (List.singleton_inj.1 hlast)
  · rw [List.concat_eq_append, ← List.cons_append, ← List.append_assoc] at htext
    exact h before between (List.append_inj' htext rfl).1

theorem ClosesAfter.not_neverCloses (h : ClosesAfter delimiter text body after) :
    ¬ NeverCloses delimiter text := fun hnever ↦ h.not_escapes (hnever body after h.text_eq)

/-- No first delimiter comes after another one. -/
theorem ClosesAfter.eq_nil {between : List Char} (h : ClosesAfter delimiter text body after)
    (h' : ClosesAfter delimiter text (body ++ between) after') : between = [] := by
  have htext : body ++ delimiter :: after = body ++ (between ++ delimiter :: after') :=
    calc
      body ++ delimiter :: after = text := h.text_eq.symm
      _ = body ++ between ++ delimiter :: after' := h'.text_eq
      _ = body ++ (between ++ delimiter :: after') := List.append_assoc body between _
  have hrest : delimiter :: after = between ++ delimiter :: after' := List.append_cancel_left htext
  cases between with
  | nil => rfl
  | cons c between =>
    obtain rfl : delimiter = c := (List.cons.inj hrest).1
    exact absurd (h'.neverCloses body between rfl) h.not_escapes

/-- It closes at one place only. -/
theorem ClosesAfter.unique (h : ClosesAfter delimiter text body after)
    (h' : ClosesAfter delimiter text body' after') : body = body' ∧ after = after' := by
  have htext : body ++ delimiter :: after = body' ++ delimiter :: after' :=
    h.text_eq.symm.trans h'.text_eq
  have hbody : body = body' := by
    rcases List.append_eq_append_iff.1 htext with ⟨between, rfl, _⟩ | ⟨between, rfl, _⟩
    · rw [h.eq_nil h', List.append_nil]
    · rw [h'.eq_nil h, List.append_nil]
  subst hbody
  exact ⟨rfl, (List.cons.inj (List.append_cancel_left htext)).2⟩

/-- The scan from within a string: its bit is whether the text before it escapes what comes next. -/
theorem stringBody_after (hbody : NeverCloses delimiter body) (text : List Char) :
    (∃ middle after, ClosesAfter delimiter (body ++ text) (body ++ middle) after ∧
      stringBody delimiter (decide (Escapes body)) text = (middle ++ [delimiter], none)) ∨
    (NeverCloses delimiter (body ++ text) ∧
      stringBody delimiter (decide (Escapes body)) text =
        (text, some (decide (Escapes (body ++ text))))) := by
  -- One step of the scan moves a character from the text to the body.
  induction text generalizing body with
  | nil =>
    rw [List.append_nil]
    exact .inr ⟨hbody, rfl⟩
  | cons c text ih =>
    by_cases hcloses : c = delimiter ∧ ¬ Escapes body
    · obtain ⟨rfl, hescapes⟩ := hcloses
      refine .inl ⟨[], text, ⟨by simp, by simpa, by simpa⟩, ?_⟩
      simp [stringBody, hescapes]
    · have hopen : NeverCloses delimiter (body ++ [c]) := by
        apply hbody.concat
        intro hc
        exact Decidable.not_not.1 fun hescapes ↦ hcloses ⟨hc, hescapes⟩
      have hbit : (!decide (Escapes body) && c == '\\') = decide (Escapes (body ++ [c])) := by
        rw [Bool.eq_iff_iff]
        simp [escapes_concat, and_comm]
      have hstep : stringBody delimiter (decide (Escapes body)) (c :: text) =
          (c :: (stringBody delimiter (decide (Escapes (body ++ [c]))) text).1,
            (stringBody delimiter (decide (Escapes (body ++ [c]))) text).2) := by
        rw [stringBody, if_neg (by simpa using hcloses), hbit]
      rw [hstep, List.append_cons]
      rcases ih hopen with ⟨middle, after, hafter, hscan⟩ | ⟨hnever, hscan⟩
      · rw [hscan]
        exact .inl ⟨c :: middle, after, by simpa using hafter, rfl⟩
      · rw [hscan]
        exact .inr ⟨hnever, rfl⟩

/-- The scan of a whole text. -/
theorem stringBody_cases (delimiter : Char) (text : List Char) :
    (∃ body after, ClosesAfter delimiter text body after ∧
      stringBody delimiter false text = (body ++ [delimiter], none)) ∨
    (NeverCloses delimiter text ∧
      stringBody delimiter false text = (text, some (decide (Escapes text)))) :=
  stringBody_after neverCloses_nil text

/-- An escaped quote goes by, and an escaped backslash does not escape the quote after it. -/
example : stringBody '"' false "a\\\"b\\\\\"c".toList = ("a\\\"b\\\\\"".toList, none) := by decide

/-! ## Reading on in a string -/

/-- What a call reads of a string. It takes text up to and with the first delimiter that is not
escaped, and all of the text where there is none; then the string goes on in backquotes, where
strings may have several lines, and after an escaping backslash. Only what is being read changes. -/
structure ReadsString (multiline : Prop) (before : CodeState) (delimiter : Char)
    (taken ahead : List Char) (cls : Option TokenClass) (after : CodeState) : Prop where
  cls_eq : cls = some .string
  contexts : after.contexts = before.contexts
  baseIndent : after.baseIndent = before.baseIndent
  reading : after.reading = .string delimiter ∨ after.reading = .base
  closed : ∀ body rest, ClosesAfter delimiter (taken ++ ahead) body rest →
    taken = body ++ [delimiter] ∧ ahead = rest ∧ after.reading = .base
  unclosed : NeverCloses delimiter (taken ++ ahead) → ahead = [] ∧
    (after.reading = .string delimiter ↔ delimiter = '\x60' ∨ multiline ∨ Escapes taken)

/-- A call that reads a string takes a part of it, in the words of `ReadsString`. -/
theorem reads_readString (dialect : Dialect) (state : CodeState) (delimiter : Char)
    (passed token ahead : List Char) :
    Reads (readString dialect state delimiter) passed token ahead fun answer token' ahead' ↦
      ∃ taken, token' = token ++ taken ∧
        ReadsString (dialect.multilineStrings = true) state delimiter taken ahead' answer.1
          answer.2 := by
  rcases stringBody_cases delimiter ahead with ⟨body, after, hcloses, hscan⟩ | ⟨hnever, hscan⟩
  · have hahead : ahead = (body ++ [delimiter]) ++ after := by simp [hcloses.text_eq]
    refine .bind (.rest ?_)
    rw [hscan]
    refine .bind (.advance hahead (.pure ⟨_, rfl, rfl, rfl, rfl, .inr rfl, ?_, ?_⟩))
    · intro body' rest hcloses'
      rw [← hahead] at hcloses'
      obtain ⟨rfl, rfl⟩ := hcloses.unique hcloses'
      exact ⟨rfl, rfl, rfl⟩
    · intro hnever
      rw [← hahead] at hnever
      exact absurd hnever hcloses.not_neverCloses
  · have hahead : ahead = ahead ++ [] := (List.append_nil ahead).symm
    have hcontinues : (decide (Escapes ahead) || delimiter == '\x60' || dialect.multilineStrings) =
        true ↔ delimiter = '\x60' ∨ dialect.multilineStrings = true ∨ Escapes ahead := by
      rw [Bool.or_eq_true, Bool.or_eq_true, decide_eq_true_iff, beq_iff_eq, or_assoc, or_rotate]
    refine .bind (.rest ?_)
    rw [hscan]
    refine .bind (.advance hahead (.pure ⟨_, rfl, rfl, rfl, rfl, ?_, ?_, ?_⟩))
    · dsimp only
      split
      · exact .inl rfl
      · exact .inr rfl
    · intro body rest hcloses
      rw [← hahead] at hcloses
      exact absurd hnever hcloses.not_neverCloses
    · intro _
      refine ⟨rfl, ?_⟩
      rw [← hcontinues]
      dsimp only
      split
      · exact iff_of_true rfl ‹_›
      · exact iff_of_false nofun ‹_›

namespace ReadsString

variable {multiline : Prop} {before state : CodeState} {taken ahead : List Char}
  {cls : Option TokenClass}

/-- Reading a string changes the reading alone. -/
theorem after_eq (h : ReadsString multiline before delimiter taken ahead cls state) :
    state = { before with reading := state.reading } := by
  obtain ⟨reading, contexts, baseIndent⟩ := state
  obtain rfl : contexts = before.contexts := h.contexts
  obtain rfl : baseIndent = before.baseIndent := h.baseIndent
  rfl

/-- Of a text there is, some is taken. -/
theorem ne_nil (h : ReadsString multiline before delimiter taken ahead cls state)
    (hsome : taken ++ ahead ≠ []) : taken ≠ [] := by
  rcases stringBody_cases delimiter (taken ++ ahead) with ⟨body, rest, hcloses, _⟩ | ⟨hnever, _⟩
  · rw [(h.closed body rest hcloses).1]
    exact List.append_ne_nil_of_right_ne_nil body (List.cons_ne_nil delimiter [])
  · rwa [(h.unclosed hnever).1, List.append_nil] at hsome

theorem eq_of_open {quote : Char} (h : ReadsString multiline before delimiter taken ahead cls state)
    (hopen : state.reading = .string quote) : delimiter = quote := by
  rcases h.reading with hstring | hbase
  · exact Reading.string.inj (hstring.symm.trans hopen)
  · exact absurd (hbase.symm.trans hopen) nofun

/-- Where strings have one line, the text of a string that goes on escapes the end of its line. -/
theorem escapes (h : ReadsString multiline before delimiter taken ahead cls state)
    (hopen : state.reading = .string delimiter) (hquote : delimiter ≠ '\x60')
    (hmultiline : ¬ multiline) : Escapes taken := by
  rcases stringBody_cases delimiter (taken ++ ahead) with ⟨body, rest, hcloses, _⟩ | ⟨hnever, _⟩
  · exact absurd (hopen.symm.trans (h.closed body rest hcloses).2.2) nofun
  · exact (((h.unclosed hnever).2.1 hopen).resolve_left hquote).resolve_left hmultiline

end ReadsString

end LineLexer.CFamily
