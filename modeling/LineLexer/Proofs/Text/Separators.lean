import LineLexer.Proofs.Text.LineBytes
import Mathlib.Data.List.Chain

/-!
# Lines joined by separators

A text is its lines with a separator in every gap between them. A carriage return and a line feed
side by side are one separator, so of the ways to cut a text at its separators one is meant: the one
in which no carriage return that separates by itself stands before a line feed. Splitting finds it,
and lines that are joined in such a way are found again.
-/

namespace LineLexer

/-- What may stand between two lines. -/
inductive Separator where
  | lineFeed
  | carriageReturn
  | both
  deriving DecidableEq

def Separator.text : Separator → List Char
  | .lineFeed => ['\n']
  | .carriageReturn => ['\r']
  | .both => ['\r', '\n']

/-- Lines with a separator in every gap: every line but the first stands behind its separator. -/
structure SeparatedLines where
  first : Line
  others : List (Separator × Line)
  deriving DecidableEq

namespace SeparatedLines

def lines (parts : SeparatedLines) : List Line := parts.first :: parts.others.map Prod.snd

/-- The text that `others` add behind the first line. -/
def textBehind (others : List (Separator × Line)) : List Char :=
  others.flatMap fun other ↦ other.1.text ++ other.2

def text (parts : SeparatedLines) : List Char := parts.first ++ textBehind parts.others

def Unbroken (parts : SeparatedLines) : Prop :=
  ∀ line ∈ parts.lines, '\r' ∉ line ∧ '\n' ∉ line

instance (parts : SeparatedLines) : Decidable parts.Unbroken :=
  inferInstanceAs (Decidable (∀ line ∈ parts.lines, '\r' ∉ line ∧ '\n' ∉ line))

/-- No carriage return that is a separator by itself is followed by a line feed in the text. -/
def ReturnsStandAlone (parts : SeparatedLines) : Prop :=
  ∀ line after, (.carriageReturn, line) :: after <:+ parts.others →
    (line ++ textBehind after).head? ≠ some '\n'

/-- Nowhere does a carriage return, an empty line and a separator that begins with a line feed come
in sequence. -/
def NeverPairs (parts : SeparatedLines) : Prop :=
  parts.others.IsChain fun other next ↦
    other = (.carriageReturn, []) → next.1.text.head? ≠ some '\n'

instance (parts : SeparatedLines) : Decidable parts.NeverPairs :=
  inferInstanceAs (Decidable (parts.others.IsChain _))

/-- The parts are the text, cut at its separators. -/
structure Separates (parts : SeparatedLines) (text : List Char) : Prop where
  joined : parts.text = text
  unbroken : parts.Unbroken
  standAlone : parts.ReturnsStandAlone

/-! ## Building from the back -/

/-- One more character at the beginning of the first line. -/
def addChar (c : Char) (parts : SeparatedLines) : SeparatedLines :=
  ⟨c :: parts.first, parts.others⟩

/-- An empty line and a separator before the first line. -/
def addSeparator (separator : Separator) (parts : SeparatedLines) : SeparatedLines :=
  ⟨[], (separator, parts.first) :: parts.others⟩

/-- Parts are built from the end by characters and separators. -/
@[elab_as_elim]
theorem induction {motive : SeparatedLines → Prop} (empty : motive ⟨[], []⟩)
    (char : ∀ c parts, motive parts → motive (addChar c parts))
    (separator : ∀ separator parts, motive parts → motive (addSeparator separator parts))
    (parts : SeparatedLines) : motive parts := by
  cases parts with
  | mk first others =>
    induction others generalizing first with
    | nil =>
      induction first with
      | nil => exact empty
      | cons c first ih => exact char c ⟨first, []⟩ ih
    | cons other others ih =>
      induction first with
      | nil => exact separator other.1 ⟨other.2, others⟩ (ih other.2)
      | cons c first ihfirst => exact char c ⟨first, other :: others⟩ ihfirst

@[simp]
theorem text_addChar (c : Char) (parts : SeparatedLines) :
    (addChar c parts).text = c :: parts.text := rfl

@[simp]
theorem text_addSeparator (separator : Separator) (parts : SeparatedLines) :
    (addSeparator separator parts).text = separator.text ++ parts.text := by
  simp [text, textBehind, addSeparator]

@[simp]
theorem unbroken_addChar (c : Char) (parts : SeparatedLines) :
    (addChar c parts).Unbroken ↔ (c ≠ '\r' ∧ c ≠ '\n') ∧ parts.Unbroken := by
  unfold Unbroken lines addChar
  rw [List.forall_mem_cons, List.forall_mem_cons, ne_comm, @ne_comm _ c]
  simp only [List.mem_cons, not_or]
  tauto

@[simp]
theorem unbroken_addSeparator (separator : Separator) (parts : SeparatedLines) :
    (addSeparator separator parts).Unbroken ↔ parts.Unbroken := by
  simp [Unbroken, lines, addSeparator]

/-- A carriage return in front stands alone unless a line feed comes next. -/
@[simp]
theorem returnsStandAlone_addSeparator (separator : Separator) (parts : SeparatedLines) :
    (addSeparator separator parts).ReturnsStandAlone ↔
      (separator = .carriageReturn → parts.text.head? ≠ some '\n') ∧ parts.ReturnsStandAlone := by
  constructor
  · intro h
    constructor
    · rintro rfl
      exact h parts.first parts.others (List.suffix_refl _)
    · intro line after hsuffix
      exact h line after (hsuffix.trans (List.suffix_cons _ _))
  · intro h line after hsuffix
    rcases List.suffix_cons_iff.1 hsuffix with hhead | htail
    · injection hhead with hother hafter
      injection hother with hseparator hline
      subst hafter hline
      exact h.1 hseparator.symm
    · exact h.2 line after htail

/-- Carriage returns that never come before an empty line and a line feed stand alone. -/
theorem returnsStandAlone_of_neverPairs {parts : SeparatedLines} (hunbroken : parts.Unbroken)
    (h : parts.NeverPairs) : parts.ReturnsStandAlone := by
  intro line after hsuffix hhead
  cases line with
  | cons c line =>
    -- The line feed would be a character of the line.
    have hc : c = '\n' := by simpa using hhead
    have hmem : (c :: line) ∈ parts.lines := by
      apply List.mem_cons_of_mem
      exact List.mem_map_of_mem (hsuffix.subset List.mem_cons_self)
    exact (hunbroken _ hmem).2 (by rw [hc]; exact List.mem_cons_self)
  | nil =>
    cases after with
    | nil => cases hhead
    | cons next after =>
      have hpair := List.isChain_cons_cons.1 (h.suffix hsuffix)
      apply hpair.1 rfl
      rw [← hhead]
      rcases next with ⟨_ | _ | _, line⟩ <;> rfl

theorem separates_nil : Separates ⟨[], []⟩ [] where
  joined := rfl
  unbroken := by decide
  standAlone := by
    intro line after hsuffix
    cases List.suffix_nil.1 hsuffix

theorem Separates.addChar {parts : SeparatedLines} {text : List Char} {c : Char}
    (h : parts.Separates text) (hreturn : c ≠ '\r') (hfeed : c ≠ '\n') :
    (addChar c parts).Separates (c :: text) where
  joined := by rw [text_addChar, h.joined]
  unbroken := (unbroken_addChar _ _).2 ⟨⟨hreturn, hfeed⟩, h.unbroken⟩
  standAlone := h.standAlone

/-- One more separator ends an empty line, unless it would be half of a pair. -/
theorem Separates.addSeparator {parts : SeparatedLines} {text : List Char} (separator : Separator)
    (h : parts.Separates text) (hreturn : separator = .carriageReturn → text.head? ≠ some '\n') :
    (addSeparator separator parts).Separates (separator.text ++ text) where
  joined := by rw [text_addSeparator, h.joined]
  unbroken := (unbroken_addSeparator _ _).2 h.unbroken
  standAlone := by
    rw [returnsStandAlone_addSeparator, h.joined]
    exact ⟨hreturn, h.standAlone⟩

end SeparatedLines

open SeparatedLines

/-! ## Splitting and joining -/

/-- Cuts a text into its lines and keeps the separators. -/
def separate : List Char → SeparatedLines
  | [] => ⟨[], []⟩
  | '\r' :: '\n' :: text => addSeparator .both (separate text)
  | '\r' :: text => addSeparator .carriageReturn (separate text)
  | '\n' :: text => addSeparator .lineFeed (separate text)
  | c :: text => addChar c (separate text)

/-- The lines between the separators are those of `splitFirstLine`. -/
theorem splitFirstLine_eq_separate (text : List Char) :
    splitFirstLine text = ((separate text).first, (separate text).others.map Prod.snd) := by
  fun_induction separate text with
  | case1 => rfl
  | case2 text ih =>
    rw [splitFirstLine, ih]
    rfl
  | case3 text hpair ih =>
    rw [splitFirstLine, ih]
    · rfl
    · intro rest _ htext
      exact hpair rest htext
  | case4 text ih =>
    rw [splitFirstLine, ih]
    · rfl
    · intro rest hreturn _
      cases hreturn
  | case5 c text hpair hreturn hfeed ih =>
    have hc : ¬ (c = '\n' ∨ c = '\r') := by
      rintro (rfl | rfl)
      · exact hfeed rfl
      · exact hreturn rfl
    rw [splitFirstLine, ih]
    · simp only [if_neg hc]
      rfl
    · exact hpair

/-- The lines between the separators are those of the splitter. -/
theorem lines_separate (text : List Char) : (separate text).lines = splitLines text := by
  rw [splitLines, splitFirstLine_eq_separate]
  rfl

/-- The parts of a text are the text, cut at its separators. -/
theorem separates_separate (text : List Char) : (separate text).Separates text := by
  fun_induction separate text with
  | case1 => exact separates_nil
  | case2 text ih => exact ih.addSeparator .both nofun
  | case3 text hpair ih =>
    apply ih.addSeparator .carriageReturn
    intro _ hhead
    obtain ⟨rest, hrest⟩ := List.head?_eq_some_iff.1 hhead
    exact hpair rest hrest
  | case4 text ih => exact ih.addSeparator .lineFeed nofun
  | case5 c text hpair hreturn hfeed ih => exact ih.addChar hreturn hfeed

/-- Right behind a separator the text is cut. -/
theorem separate_append (separator : Separator) {text : List Char}
    (h : separator = .carriageReturn → text.head? ≠ some '\n') :
    separate (separator.text ++ text) = addSeparator separator (separate text) := by
  cases separator with
  | lineFeed => rfl
  | both => rfl
  | carriageReturn =>
    rw [Separator.text, List.singleton_append, separate]
    intro rest htext
    apply h rfl
    rw [htext]
    rfl

/-- There is no other way to cut the text of the parts at its separators. -/
theorem separate_text {parts : SeparatedLines} (hunbroken : parts.Unbroken)
    (hreturns : parts.ReturnsStandAlone) : separate parts.text = parts := by
  induction parts using SeparatedLines.induction with
  | empty => rfl
  | char c parts ih =>
    rw [unbroken_addChar] at hunbroken
    rw [text_addChar, separate, ih hunbroken.2 hreturns]
    · intro _ hreturn _
      exact hunbroken.1.1 hreturn
    · exact hunbroken.1.1
    · exact hunbroken.1.2
  | separator separator parts ih =>
    rw [returnsStandAlone_addSeparator] at hreturns
    rw [unbroken_addSeparator] at hunbroken
    rw [text_addSeparator, separate_append separator hreturns.1, ih hunbroken hreturns.2]

/-- Splitting is the inverse of joining by separators. A text is its lines with separators in the
gaps, in exactly one way; lines that are joined without making two separators one are found again;
and cutting the lines out by their bytes asks for no slice off a boundary. -/
theorem splitLines_inverts_joining :
    (∀ text : List Char, ∃ parts : SeparatedLines,
      parts.lines = splitLines text ∧ parts.Separates text ∧
        ∀ other : SeparatedLines, other.Separates text → other = parts) ∧
    (∀ parts : SeparatedLines, parts.Unbroken → parts.NeverPairs →
      splitLines parts.text = parts.lines) ∧
    ∀ text : List Char, cutLines text = .ok (splitLines text) := by
  constructor
  · intro text
    refine ⟨separate text, lines_separate text, separates_separate text, fun other hother ↦ ?_⟩
    rw [← hother.joined, separate_text hother.unbroken hother.standAlone]
  · refine ⟨fun parts hunbroken hpairs ↦ ?_, cutLines_eq⟩
    have hreturns := returnsStandAlone_of_neverPairs hunbroken hpairs
    rw [← lines_separate, separate_text hunbroken hreturns]

/-- All three separators, with two empty lines between a pair and a carriage return. -/
def Sample.mixedSeparators : SeparatedLines :=
  ⟨['a'], [(.both, []), (.carriageReturn, []), (.carriageReturn, ['b']), (.lineFeed, [])]⟩

theorem splitLines_inverts_joining_mixed :
    Sample.mixedSeparators.Unbroken ∧ Sample.mixedSeparators.NeverPairs ∧
      Sample.mixedSeparators.Separates "a\r\n\r\rb\n".toList ∧
      splitLines "a\r\n\r\rb\n".toList = [['a'], [], [], ['b'], []] := by
  have hunbroken : Sample.mixedSeparators.Unbroken := by decide
  have hpairs : Sample.mixedSeparators.NeverPairs := by decide
  have hjoined : Sample.mixedSeparators.text = "a\r\n\r\rb\n".toList := by decide
  have hlines := splitLines_inverts_joining.2.1 Sample.mixedSeparators hunbroken hpairs
  rw [hjoined] at hlines
  exact ⟨hunbroken, hpairs, ⟨hjoined, hunbroken, returnsStandAlone_of_neverPairs hunbroken hpairs⟩,
    hlines⟩

end LineLexer
