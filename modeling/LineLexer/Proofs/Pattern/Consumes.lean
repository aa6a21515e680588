import LineLexer.Pattern.Basic

/-!
# What a match takes

A match takes a beginning of its text. A pattern of which some part that cannot be skipped takes a
character takes at least one.
-/

namespace LineLexer.Pattern

/-- Every match of the pattern takes a character. -/
def consumes : Pattern → Bool
  | .one _ => true
  | .seq first second => first.consumes || second.consumes
  | .alt first second => first.consumes && second.consumes
  | .capture _ body => body.consumes
  | _ => false

/-- One place is reached from another by taking a text. -/
structure Place.Reaches (place reached : Place) (taken : List Char) : Prop where
  before_eq : reached.before = taken.reverse ++ place.before
  after_eq : place.after = taken ++ reached.after

theorem Place.Reaches.refl (place : Place) : place.Reaches place [] := ⟨rfl, rfl⟩

theorem Place.Reaches.trans {place middle reached : Place} {taken more : List Char}
    (h : place.Reaches middle taken) (hmore : middle.Reaches reached more) :
    place.Reaches reached (taken ++ more) where
  before_eq := by simp [hmore.before_eq, h.before_eq]
  after_eq := by simp [h.after_eq, hmore.after_eq]

variable {β : Type} {place : Place} {captures : Captures} {next : Place → Captures → Option β}
  {result : β}

/-- The result comes from `next`, at a place that is reached by taking some text. -/
def GoesOn (place : Place) (next : Place → Captures → Option β) (result : β) : Prop :=
  ∃ reached captures taken, next reached captures = some result ∧ place.Reaches reached taken

/-- A match that goes on from further on goes on from here. -/
theorem GoesOn.of_reaches {middle : Place} {taken : List Char} (hreaches : place.Reaches middle taken)
    (h : GoesOn middle next result) : GoesOn place next result := by
  obtain ⟨reached, captures, more, hresult, hmore⟩ := h
  exact ⟨reached, captures, taken ++ more, hresult, hreaches.trans hmore⟩

theorem orElse_eq_some {first : Option β} {second : Unit → Option β}
    (h : first.orElse second = some result) : first = some result ∨ second () = some result := by
  cases first with
  | none => exact .inr h
  | some _ => exact .inl h

/-- A repetition goes on from a place that its rounds reach. -/
theorem iterate_goesOn {isLazy : Bool}
    {step : Place → Captures → (Place → Captures → Option β) → Option β}
    (hstep : ∀ place captures next, step place captures next = some result →
      GoesOn place next result)
    {fuel : Nat} (h : iterate isLazy step fuel place captures next = some result) :
    GoesOn place next result := by
  induction fuel generalizing place captures with
  | zero => exact ⟨place, captures, [], h, .refl place⟩
  | succ fuel ih =>
    have hnow (hnext : next place captures = some result) : GoesOn place next result :=
      ⟨place, captures, [], hnext, .refl place⟩
    have hagain (hround : (step place captures fun reached captures ↦
          if reached.after.length < place.after.length then
            iterate isLazy step fuel reached captures next
          else none) = some result) : GoesOn place next result := by
      obtain ⟨middle, captures', taken, hmiddle, hreaches⟩ := hstep _ _ _ hround
      dsimp only at hmiddle
      split at hmiddle
      · exact (ih hmiddle).of_reaches hreaches
      · cases hmiddle
    simp only [iterate] at h
    split at h
    · rcases orElse_eq_some h with hnext | hround
      · exact hnow hnext
      · exact hagain hround
    · rcases orElse_eq_some h with hround | hnext
      · exact hagain hround
      · exact hnow hnext

/-- A match goes on from a place that it reaches, past a character if the pattern takes one. -/
theorem run_reaches {pattern : Pattern} (h : pattern.run place captures next = some result) :
    ∃ reached captures' taken, next reached captures' = some result ∧
      place.Reaches reached taken ∧ (pattern.consumes = true → taken ≠ []) := by
  induction pattern generalizing place captures next with
  | nothing => exact ⟨place, captures, [], h, .refl place, by simp [consumes]⟩
  | one accepts =>
    obtain ⟨before, after⟩ := place
    cases after with
    | nil => simp [run] at h
    | cons c after =>
      simp only [run] at h
      split at h
      · exact ⟨_, captures, [c], h, ⟨rfl, rfl⟩, by simp⟩
      · cases h
  | seq first second ihFirst ihSecond =>
    obtain ⟨middle, captures', taken, hnext, htaken, hfirst⟩ := ihFirst h
    obtain ⟨reached, captures'', more, hresult, hmore, hsecond⟩ := ihSecond hnext
    refine ⟨reached, captures'', taken ++ more, hresult, htaken.trans hmore, ?_⟩
    intro hconsumes
    rcases Bool.or_eq_true_iff.1 hconsumes with htakes | htakes
    · simp [hfirst htakes]
    · simp [hsecond htakes]
  | alt first second ihFirst ihSecond =>
    rw [run] at h
    rcases orElse_eq_some h with hleft | hright
    · obtain ⟨reached, captures', taken, hresult, htaken, hfirst⟩ := ihFirst hleft
      exact ⟨reached, captures', taken, hresult, htaken, fun hboth ↦
        hfirst (Bool.and_eq_true_iff.1 hboth).1⟩
    · obtain ⟨reached, captures', taken, hresult, htaken, hsecond⟩ := ihSecond hright
      exact ⟨reached, captures', taken, hresult, htaken, fun hboth ↦
        hsecond (Bool.and_eq_true_iff.1 hboth).2⟩
  | star isLazy body ih =>
    rw [run] at h
    have hbody (place : Place) (captures : Captures) (next : Place → Captures → Option β)
        (hrun : body.run place captures next = some result) : GoesOn place next result := by
      obtain ⟨reached, captures', taken, hresult, htaken, _⟩ := ih hrun
      exact ⟨reached, captures', taken, hresult, htaken⟩
    obtain ⟨reached, captures', taken, hresult, htaken⟩ := iterate_goesOn hbody h
    exact ⟨reached, captures', taken, hresult, htaken, by simp [consumes]⟩
  | capture index body ih =>
    obtain ⟨reached, captures', taken, hresult, htaken, hbody⟩ := ih h
    exact ⟨reached, _, taken, hresult, htaken, hbody⟩
  | textStart =>
    simp only [run] at h
    split at h
    · exact ⟨place, captures, [], h, .refl place, by simp [consumes]⟩
    · cases h
  | textEnd =>
    simp only [run] at h
    split at h
    · exact ⟨place, captures, [], h, .refl place, by simp [consumes]⟩
    · cases h
  | wordEdge =>
    simp only [run] at h
    split at h
    · exact ⟨place, captures, [], h, .refl place, by simp [consumes]⟩
    · cases h

/-- A match takes a beginning of the text. -/
theorem match?_text {pattern : Pattern} {text : List Char} {found : Match}
    (h : pattern.match? text = some found) :
    ∃ rest, text = found.text ++ rest ∧ (pattern.consumes = true → found.text ≠ []) := by
  obtain ⟨reached, captures, taken, hfound, htaken, hconsumes⟩ := run_reaches h
  have htext : found.text = taken := by
    rw [← Option.some.inj hfound]
    simp [htaken.before_eq]
  exact ⟨reached.after, by rw [htext]; exact htaken.after_eq, by rw [htext]; exact hconsumes⟩

end LineLexer.Pattern
