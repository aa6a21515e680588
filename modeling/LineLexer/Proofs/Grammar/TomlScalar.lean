import LineLexer.Grammar.Toml
import LineLexer.Proofs.Pattern.Greedy

/-!
# Keys and scalars of TOML as they are written

The spellings of bare keys, decimal integers and basic strings. Where a scalar is expected, the
patterns of the grammar are tried one after the other, and the one of its kind takes exactly its
text, as long as what follows may follow a value.
-/

namespace LineLexer.TomlGrammar

open Pattern

/-! ## Spellings -/

def isKeyChar (c : Char) : Bool := c.isAlphanum || c == '_' || c == '-'

structure BareKey where
  text : List Char
  ne_nil : text ≠ []
  isKeyChar_of_mem : ∀ c ∈ text, isKeyChar c = true

def BareKey.single (c : Char) (h : isKeyChar c = true) : BareKey :=
  ⟨[c], List.cons_ne_nil c [], List.forall_mem_singleton.2 h⟩

/-- A decimal integer: a digit and further digits, which underscores may divide, after an optional
sign. -/
structure Integer where
  sign : Option Char := none
  first : Char
  others : List Char
  sign_eq : sign = none ∨ sign = some '+' ∨ sign = some '-'
  isDigit_first : first.isDigit = true
  of_mem_others : ∀ c ∈ others, c.isDigit = true ∨ c = '_'

/-- A basic string without quotes and backslashes between its quotes. -/
structure BasicString where
  body : List Char
  plain : ∀ c ∈ body, c ≠ '"' ∧ c ≠ '\\'

def Integer.text (integer : Integer) : List Char :=
  integer.sign.toList ++ integer.first :: integer.others

def BasicString.text (string : BasicString) : List Char := '"' :: string.body ++ ['"']

def booleanText (value : Bool) : List Char :=
  if value then ['t', 'r', 'u', 'e'] else ['f', 'a', 'l', 's', 'e']

/-- A value may end before a text: before a comma or a closing bracket, or at the end of the
line. -/
def EndsValue (ahead : List Char) : Prop := ∀ c ∈ ahead.head?, c = ',' ∨ c = ']' ∨ c = '\x7d'

/-! ## Keys -/

/-- What a key, an integer or a Boolean value may begin with. -/
def startsWord (c : Char) : Bool := c == '+' || isKeyChar c

/-- No word begins with a blank, which is checked for all characters of ASCII. -/
theorem isSpace_of_startsWord {c : Char} (h : startsWord c = true) : isSpace c = false := by
  have hascii : ∀ n < 128, startsWord (Char.ofNat n) = true → isSpace (Char.ofNat n) = false := by
    decide +kernel
  have hlt : c.toNat < 128 := by
    unfold startsWord isKeyChar Char.isAlphanum Char.isAlpha Char.isUpper Char.isLower at h
    simp only [Char.isDigit, Bool.or_eq_true, Bool.and_eq_true, decide_eq_true_eq, beq_iff_eq, ge_iff_le,
      UInt32.le_iff_toNat_le] at h
    change c = '+' ∨ ((((65 ≤ c.toNat ∧ c.toNat ≤ 90) ∨ (97 ≤ c.toNat ∧ c.toNat ≤ 122)) ∨
      (48 ≤ c.toNat ∧ c.toNat ≤ 57)) ∨ c = '_') ∨ c = '-' at h
    rcases h with rfl | ((h | h) | rfl) | rfl
    · decide
    · omega
    · omega
    · decide
    · decide
  simpa using hascii c.toNat hlt (by simpa using h)

theorem not_mem_of_startsWord {c : Char} (h : startsWord c = true) {chars : List Char}
    (hchars : chars.any startsWord = false) : c ∉ chars := by
  intro hmem
  have hany : chars.any startsWord = true := List.any_eq_true.2 ⟨c, hmem, h⟩
  rw [hchars] at hany
  cases hany

theorem match?_bareKey (key : BareKey) {ahead : List Char}
    (hahead : ∀ c ∈ ahead.head?, isKeyChar c = false) :
    bareKey.match? (key.text ++ ahead) = some ⟨key.text, []⟩ := by
  rw [match?_of_groupCount rfl, bareKey, run_seq, run_textStart]
  apply run_many1_one key.ne_nil key.isKeyChar_of_mem hahead
  simp

theorem BareKey.exists_cons (key : BareKey) :
    ∃ c text, key.text = c :: text ∧ startsWord c = true := by
  obtain ⟨_ | ⟨c, text⟩, hne, hchars⟩ := key
  · exact absurd rfl hne
  · exact ⟨c, text, rfl, by simp [startsWord, hchars c List.mem_cons_self]⟩

/-! ## Integers -/

theorem Integer.exists_cons (integer : Integer) :
    ∃ c text, integer.text = c :: text ∧ startsWord c = true := by
  obtain ⟨sign, first, others, hsign, hfirst, _⟩ := integer
  rcases hsign with rfl | rfl | rfl
  · exact ⟨first, others, rfl, by simp [startsWord, isKeyChar, Char.isAlphanum, hfirst]⟩
  · exact ⟨'+', first :: others, rfl, rfl⟩
  · exact ⟨'-', first :: others, rfl, rfl⟩

theorem isDecimal_of_isDigit {c : Char} (h : c.isDigit = true) : isDecimal c = true := by
  have hlt : c.toNat < 0x80 := by
    simp only [Char.isDigit, Bool.and_eq_true, decide_eq_true_eq, UInt32.le_iff_toNat_le] at h
    change _ ∧ c.toNat ≤ 57 at h
    omega
  rw [isDecimal, if_pos hlt, h]

/-- No digit goes on behind a value. -/
theorem EndsValue.not_isDecimal {ahead : List Char} (h : EndsValue ahead) :
    ∀ c ∈ ahead.head?, isDecimal c = false := by
  intro c hc
  rcases h c hc with rfl | rfl | rfl <;> decide

/-- A character that stands neither in an unsigned integer nor right after it. -/
def isForeign (c : Char) : Bool := !c.isDigit && !(['_', ',', ']', '\x7d'].contains c)

theorem EndsValue.ne {ahead : List Char} (h : EndsValue ahead) {wanted : Char}
    (hwanted : isForeign wanted = true) : ∀ c ∈ ahead.head?, c ≠ wanted := by
  rintro c hc rfl
  rcases h c hc with rfl | rfl | rfl <;> exact absurd hwanted (by decide)

theorem ne_of_isDigit {c wanted : Char} (h : c.isDigit = true ∨ c = '_')
    (hwanted : isForeign wanted = true) : c ≠ wanted := by
  rintro rfl
  rcases h with hdigit | rfl
  · simp [isForeign, hdigit] at hwanted
  · exact absurd hwanted (by decide)

/-- An unsigned number without a radix. -/
def decimal : Pattern :=
  let digits := many (.one fun c ↦ isDecimal c || c == '_')
  concat [digit, digits, optional (concat [char '.', digit, digits]),
    optional (concat [oneOf ['e', 'E'], optional (oneOf ['+', '-']), digit, digits])]

def unsigned : Pattern :=
  choice (.seq (text ['0', 'x']) (many1 (.one fun c ↦ hexDigit c || c == '_')))
    [.seq (text ['0', 'o']) (many1 (.one fun c ↦ ('0' ≤ c && c ≤ '7') || c == '_')),
      .seq (text ['0', 'b']) (many1 (oneOf ['0', '1', '_'])),
      text ['i', 'n', 'f'],
      text ['n', 'a', 'n'],
      decimal]

theorem number_eq : number = concat [.textStart, optional (oneOf ['+', '-']), unsigned] := rfl

section Unsigned

variable {β : Type} {before ahead : List Char} {captures : Captures}
  {next : Place → Captures → Option β} {result : β} {first : Char} {others : List Char}

/-- A prefix of another base does not match, as its letter is no digit. -/
theorem run_text_cons_cons {letter zero : Char} (hletter : isForeign letter = true)
    (hothers : ∀ c ∈ others, c.isDigit = true ∨ c = '_') (hahead : EndsValue ahead)
    (digits : Pattern) :
    ((text [zero, letter]).seq digits).run ⟨before, first :: (others ++ ahead)⟩ captures next =
      none := by
  have hsecond : ∀ c ∈ (others ++ ahead).head?, c ≠ letter := by
    cases others with
    | nil => exact hahead.ne hletter
    | cons second others =>
      rintro c hc
      obtain rfl : second = c := Option.some.inj hc
      exact ne_of_isDigit (hothers second List.mem_cons_self) hletter
  cases hrest : others ++ ahead with
  | nil => simp [text, char]
  | cons second rest =>
    have hne : second ≠ letter := hsecond second (by rw [hrest]; rfl)
    simp [text, char, hne]

/-- The digits of an integer are matched up to its end. -/
theorem run_decimal (hfirst : first.isDigit = true)
    (hothers : ∀ c ∈ others, c.isDigit = true ∨ c = '_') (hahead : EndsValue ahead)
    (hnext : next ⟨others.reverse ++ first :: before, ahead⟩ captures = some result) :
    decimal.run ⟨before, first :: (others ++ ahead)⟩ captures next = some result := by
  have htaken : ∀ c ∈ others, (isDecimal c || c == '_') = true := by
    intro c hc
    rcases hothers c hc with hdigit | rfl
    · simp [isDecimal_of_isDigit hdigit]
    · rfl
  have hstop : ∀ c ∈ ahead.head?, (isDecimal c || c == '_') = false := by
    intro c hc
    rcases hahead c hc with rfl | rfl | rfl <;> decide
  simp only [decimal, concat, List.foldr, digit, run_seq, run_one_cons,
    isDecimal_of_isDigit hfirst, if_true]
  apply run_many_one htaken hstop
  -- neither a fraction nor an exponent begins where the value ends
  cases ahead with
  | nil => simpa [Pattern.optional, char, oneOf] using hnext
  | cons c ahead =>
    have hdot : c ≠ '.' := hahead.ne (by decide) c rfl
    have he : c ≠ 'e' := hahead.ne (by decide) c rfl
    have hE : c ≠ 'E' := hahead.ne (by decide) c rfl
    simpa [Pattern.optional, char, oneOf, hdot, he, hE] using hnext

/-- Prefixes of other bases and names do not match digits, so that the decimal alternative is taken. -/
theorem run_unsigned (hfirst : first.isDigit = true)
    (hothers : ∀ c ∈ others, c.isDigit = true ∨ c = '_') (hahead : EndsValue ahead)
    (hnext : next ⟨others.reverse ++ first :: before, ahead⟩ captures = some result) :
    unsigned.run ⟨before, first :: (others ++ ahead)⟩ captures next = some result := by
  have hradix (letter : Char) (hletter : isForeign letter = true) (digits : Pattern) :
      ((text ['0', letter]).seq digits).run ⟨before, first :: (others ++ ahead)⟩ captures next =
        none :=
    run_text_cons_cons hletter hothers hahead digits
  have hword (letter : Char) (hletter : isForeign letter = true) (letters : List Char) :
      (text (letter :: letters)).run ⟨before, first :: (others ++ ahead)⟩ captures next = none := by
    simp [text, char, ne_of_isDigit (.inl hfirst) hletter]
  simp only [unsigned, choice, List.foldl, run_alt, hradix 'x' rfl, hradix 'o' rfl, hradix 'b' rfl,
    hword 'i' rfl, hword 'n' rfl, run_decimal hfirst hothers hahead hnext, Option.none_or]

end Unsigned

/-- An integer is matched up to its end. -/
theorem match?_number (integer : Integer) {ahead : List Char} (hahead : EndsValue ahead) :
    number.match? (integer.text ++ ahead) = some ⟨integer.text, []⟩ := by
  obtain ⟨sign, first, others, hsign, hfirst, hothers⟩ := integer
  have hunsigned (before : List Char) :
      unsigned.run ⟨before, first :: (others ++ ahead)⟩ []
        (fun reached _ ↦ some (⟨reached.before.reverse, []⟩ : Match)) =
          some ⟨before.reverse ++ first :: others, []⟩ :=
    run_unsigned hfirst hothers hahead (by simp)
  have hplus : first ≠ '+' := ne_of_isDigit (.inl hfirst) rfl
  have hminus : first ≠ '-' := ne_of_isDigit (.inl hfirst) rfl
  rw [match?_of_groupCount rfl]
  rcases hsign with rfl | rfl | rfl <;>
    simp [number_eq, concat, Integer.text, Pattern.optional, oneOf, hplus, hminus, hunsigned]

/-! ## Patterns that are tried before -/

/-- Neither a date nor a time begins with another character than a digit. -/
theorem match?_date_of_not_isDecimal {c : Char} (h : isDecimal c = false) (text : List Char) :
    date.match? (c :: text) = none := by
  simp [match?, date, concat, times, digit, h]

theorem match?_time_of_not_isDecimal {c : Char} (h : isDecimal c = false) (text : List Char) :
    time.match? (c :: text) = none := by
  simp [match?, time, timeOfDay, concat, times, digit, h]

theorem match?_boolean_of_ne {c : Char} (ht : c ≠ 't') (hf : c ≠ 'f') (text : List Char) :
    boolean.match? (c :: text) = none := by
  simp [match?, boolean, concat, Pattern.text, char, ht, hf]

namespace Integer

variable (integer : Integer) {ahead : List Char}

/-- An integer does not begin with digits and a character that is foreign to it. -/
theorem run_times_digit (hahead : EndsValue ahead) {wanted : Char}
    (hwanted : isForeign wanted = true) {n : Nat} {others : Pattern} {β : Type}
    {captures : Captures} {next : Place → Captures → Option β} :
    ((times (n + 1) digit).seq ((char wanted).seq others)).run ⟨[], integer.text ++ ahead⟩ captures
      next = none := by
  obtain ⟨sign, first, others, hsign, hfirst, hothers⟩ := integer
  have hdigits : ∀ c ∈ first :: others, c ≠ wanted := by
    intro c hc
    rcases List.mem_cons.1 hc with rfl | hin
    · exact ne_of_isDigit (.inl hfirst) hwanted
    · exact ne_of_isDigit (hothers c hin) hwanted
  have hstop : ∀ c ∈ ahead.head?, c ≠ wanted ∧ isDecimal c = false := fun c hc ↦
    ⟨hahead.ne hwanted c hc, hahead.not_isDecimal c hc⟩
  rcases hsign with rfl | rfl | rfl
  · exact run_times_one_char hdigits hstop (n + 1) _
  · rfl
  · rfl

theorem match?_date (hahead : EndsValue ahead) : date.match? (integer.text ++ ahead) = none := by
  rw [match?_of_groupCount rfl]
  exact integer.run_times_digit hahead rfl

theorem match?_time (hahead : EndsValue ahead) : time.match? (integer.text ++ ahead) = none := by
  rw [match?_of_groupCount rfl]
  exact integer.run_times_digit hahead rfl

theorem match?_boolean (ahead : List Char) : boolean.match? (integer.text ++ ahead) = none := by
  obtain ⟨sign, first, others, hsign, hfirst, hothers⟩ := integer
  rcases hsign with rfl | rfl | rfl
  · exact match?_boolean_of_ne (ne_of_isDigit (.inl hfirst) rfl) (ne_of_isDigit (.inl hfirst) rfl) _
  · rfl
  · rfl

end Integer

theorem match?_boolean (value : Bool) {ahead : List Char} (hahead : EndsValue ahead) :
    boolean.match? (booleanText value ++ ahead) = some ⟨booleanText value, []⟩ := by
  have hedge : ahead.head?.any isPatternWord = false := by
    cases ahead with
    | nil => rfl
    | cons c ahead =>
      have hc : isPatternWord c = false := by
        rcases hahead c rfl with rfl | rfl | rfl <;> decide
      exact hc
  have hletter : isPatternWord 'e' = true := by decide
  rw [match?_of_groupCount rfl]
  cases value <;>
    simp [boolean, concat, Pattern.text, char, booleanText, run, Place.atWordEdge, hedge, hletter]

end LineLexer.TomlGrammar
