import LineLexer.Pattern.Basic

/-!
# Repetitions that take all they can

A greedy repetition of one character takes the longest run of accepted characters, if what comes
after it in the pattern succeeds there. A fixed number of such characters before a character that
the run never reaches does not match at all.
-/

namespace LineLexer.Pattern

variable {β : Type} {accepts : Char → Bool} {first second : Pattern} {place : Place}
  {before after : List Char} {captures : Captures} {next : Place → Captures → Option β}

/-! ## Steps of a match -/

@[simp] theorem run_nothing : nothing.run place captures next = next place captures := rfl

@[simp] theorem run_one_nil : (one accepts).run ⟨before, []⟩ captures next = none := rfl

@[simp] theorem run_one_cons {c : Char} :
    (one accepts).run ⟨before, c :: after⟩ captures next =
      if accepts c then next ⟨c :: before, after⟩ captures else none := rfl

@[simp] theorem run_seq :
    (first.seq second).run place captures next =
      first.run place captures fun reached captures ↦ second.run reached captures next := rfl

@[simp] theorem run_alt :
    (first.alt second).run place captures next =
      (first.run place captures next).or (second.run place captures next) := by
  rw [run]
  cases first.run place captures next <;> rfl

@[simp] theorem run_textStart :
    textStart.run ⟨[], after⟩ captures next = next ⟨[], after⟩ captures := rfl

/-- A pattern without groups gives the text alone. -/
theorem match?_of_groupCount {pattern : Pattern} (h : pattern.groupCount = 0) (text : List Char) :
    pattern.match? text =
      pattern.run ⟨[], text⟩ [] fun reached _ ↦ some ⟨reached.before.reverse, []⟩ := by
  rw [match?, h]
  rfl

/-! ## Runs of characters -/

/-- A repetition takes the whole run if what comes after it succeeds there. -/
theorem run_many_one {taken rest : List Char} (htaken : ∀ c ∈ taken, accepts c = true)
    (hrest : ∀ c ∈ rest.head?, accepts c = false) {result : β}
    (hnext : next ⟨taken.reverse ++ before, rest⟩ captures = some result) :
    (many (.one accepts)).run ⟨before, taken ++ rest⟩ captures next = some result := by
  -- the repetition has fuel for every character of the text, so for those of the run
  have hfuel (fuel : Nat) (hle : taken.length ≤ fuel) :
      iterate false (fun place captures next ↦ (one accepts).run place captures next) fuel
        ⟨before, taken ++ rest⟩ captures next = some result := by
    induction taken generalizing before fuel with
    | nil =>
      cases fuel with
      | zero => exact hnext
      | succ fuel =>
        cases rest with
        | nil => simpa [iterate] using hnext
        | cons c rest =>
          have hc : accepts c = false := hrest c rfl
          simpa [iterate, hc] using hnext
    | cons c taken ih =>
      obtain ⟨hc, htaken⟩ := List.forall_mem_cons.1 htaken
      cases fuel with
      | zero => simp at hle
      | succ fuel =>
        rw [List.reverse_cons, List.append_assoc] at hnext
        have hround := ih htaken hnext fuel (Nat.le_of_succ_le_succ hle)
        rw [List.singleton_append] at hround
        simp [iterate, hc, hround]
  exact hfuel _ (by simp)

/-- So does a repetition that wants one character at least. -/
theorem run_many1_one {taken rest : List Char} (hne : taken ≠ [])
    (htaken : ∀ c ∈ taken, accepts c = true) (hrest : ∀ c ∈ rest.head?, accepts c = false)
    {result : β} (hnext : next ⟨taken.reverse ++ before, rest⟩ captures = some result) :
    (many1 (.one accepts)).run ⟨before, taken ++ rest⟩ captures next = some result := by
  cases taken with
  | nil => exact absurd rfl hne
  | cons c taken =>
    obtain ⟨hc, htaken⟩ := List.forall_mem_cons.1 htaken
    rw [List.reverse_cons, List.append_assoc] at hnext
    have hmany := run_many_one htaken hrest hnext
    rw [many1, run_seq, List.cons_append, run_one_cons, if_pos hc]
    exact hmany

/-- So many characters before one that the run never reaches do not match. -/
theorem run_times_one_char {taken rest : List Char} {wanted : Char}
    (htaken : ∀ c ∈ taken, c ≠ wanted)
    (hrest : ∀ c ∈ rest.head?, c ≠ wanted ∧ accepts c = false) (n : Nat) (others : Pattern) :
    ((times n (.one accepts)).seq ((char wanted).seq others)).run ⟨before, taken ++ rest⟩ captures
      next = none := by
  induction n generalizing taken before with
  | zero =>
    cases taken with
    | nil =>
      cases rest with
      | nil => rfl
      | cons c rest => simp [times, concat, char, (hrest c rfl).1]
    | cons c taken => simp [times, concat, char, htaken c List.mem_cons_self]
  | succ n ih =>
    have htimes : times (n + 1) (.one accepts) = .seq (.one accepts) (times n (.one accepts)) := rfl
    rw [htimes, run_seq, run_seq]
    cases taken with
    | nil =>
      cases rest with
      | nil => rfl
      | cons c rest => simp [(hrest c rfl).2]
    | cons c taken =>
      rw [List.cons_append, run_one_cons]
      split
      · exact ih fun d hd ↦ htaken d (List.mem_cons_of_mem c hd)
      · rfl

end LineLexer.Pattern
