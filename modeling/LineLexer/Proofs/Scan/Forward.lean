import LineLexer.Proofs.Scan.Reads

/-!
# Progress of scanning actions

Three kinds of actions. One that goes forward keeps what the token has. One that takes makes a
token of at least one character where there is text ahead. One that tries takes such a token or
leaves the cursor where it was, and tells which.
-/

namespace LineLexer.Scan

variable {α β : Type} {passed token ahead : List Char} {post : α → Prop}

/-- The token has a character. -/
abbrev Took (post : α → Prop) : α → List Char → List Char → Prop := fun a token _ ↦ token ≠ [] ∧ post a

/-- The action only adds to the token. -/
def Forward (action : Scan α) (post : α → Prop) : Prop :=
  ∀ passed token ahead, Reads action passed token ahead fun a token' _ ↦ token <+: token' ∧ post a

/-- The action begins a token and takes at least one character of any text ahead. -/
def Takes (action : Scan α) (post : α → Prop) : Prop :=
  ∀ passed ahead, ahead ≠ [] → Reads action passed [] ahead (Took post)

/-- The action begins a token and takes at least one character, or answers that there is none. -/
def Tries (action : Scan Bool) : Prop :=
  ∀ passed ahead, Reads action passed [] ahead fun found token _ ↦ found = !token.isEmpty

/-! ## Going forward -/

/-- An action that never goes back takes a part of the text ahead. -/
theorem Forward.reads {action : Scan α} (h : Forward action post) (htoken : token ≠ []) :
    Reads action passed token ahead (Took post) := by
  refine (h passed token ahead).mono fun a token' ahead' ⟨hkept, hpost⟩ ↦ ⟨?_, hpost⟩
  intro hnil
  rw [hnil] at hkept
  exact htoken (List.prefix_nil.1 hkept)

namespace Forward

theorem pure {a : α} (h : post a) : Forward (pure a) post := fun _ _ _ ↦
  .pure ⟨List.prefix_rfl, h⟩

theorem bind {action : Scan β} {next : β → Scan α} {middle : β → Prop}
    (h : Forward action middle) (hnext : ∀ b, middle b → Forward (next b) post) :
    Forward (action >>= next) post := by
  intro passed token ahead
  refine .bind ((h passed token ahead).mono fun b token' ahead' ⟨hkept, hmiddle⟩ ↦ ?_)
  refine (hnext b hmiddle passed token' ahead').mono fun a token'' _ ⟨hkept', hpost⟩ ↦ ?_
  exact ⟨hkept.trans hkept', hpost⟩

/-- The answer of the first action does not matter. -/
theorem andThen {action : Scan β} {next : β → Scan α} (h : Forward action fun _ ↦ True)
    (hnext : ∀ b, Forward (next b) post) : Forward (action >>= next) post :=
  h.bind fun b _ ↦ hnext b

theorem ite {p : Prop} [Decidable p] {first second : Scan α} (hfirst : Forward first post)
    (hsecond : Forward second post) : Forward (if p then first else second) post := by
  split
  · exact hfirst
  · exact hsecond

theorem branch {action : Scan Bool} {first second : Scan α} (h : Forward action fun _ ↦ True)
    (hfirst : Forward first post) (hsecond : Forward second post) :
    Forward (action >>= fun found ↦ if found then first else second) post :=
  h.andThen fun _ ↦ hfirst.ite hsecond

theorem peek : Forward Scan.peek fun _ ↦ True := fun _ _ _ ↦ .peek ⟨List.prefix_rfl, trivial⟩

theorem current : Forward Scan.current fun _ ↦ True := fun _ _ _ ↦ .current ⟨List.prefix_rfl, trivial⟩

theorem skipToEnd : Forward Scan.skipToEnd fun _ ↦ True := fun _ _ _ ↦
  .skipToEnd ⟨List.prefix_append _ _, trivial⟩

theorem eat (accepts : Char → Bool) : Forward (Scan.eat accepts) fun _ ↦ True := fun _ _ _ ↦
  .eat (fun _ _ _ _ ↦ ⟨List.prefix_append _ _, trivial⟩) fun _ ↦ ⟨List.prefix_rfl, trivial⟩

theorem next : Forward Scan.next fun _ ↦ True := eat _

theorem eatChar (c : Char) : Forward (Scan.eatChar c) fun _ ↦ True :=
  (eat _).andThen fun _ ↦ pure trivial

theorem eatWhile (accepts : Char → Bool) : Forward (Scan.eatWhile accepts) fun _ ↦ True :=
  fun _ _ _ ↦ .eatWhile ⟨List.prefix_append _ _, trivial⟩

theorem skipToText (wanted : List Char) : Forward (Scan.skipToText wanted) fun _ ↦ True :=
  fun _ _ _ ↦ .skipToText (fun _ _ _ ↦ ⟨List.prefix_append _ _, trivial⟩) fun _ ↦
    ⟨List.prefix_rfl, trivial⟩

theorem matchText (wanted : List Char) : Forward (Scan.matchText wanted true) fun _ ↦ True :=
  fun _ _ _ ↦ .matchText (fun _ _ ↦ ⟨List.prefix_append _ _, trivial⟩) fun _ ↦
    ⟨List.prefix_rfl, trivial⟩

/-- To go to the end of a text that may lie ahead. -/
theorem skipOver {wanted : List Char} {found missing : Scan α} (hfound : Forward found post)
    (hmissing : Forward missing post) :
    Forward (do
      if ← Scan.skipToText wanted then
        Scan.advance wanted
        found
      else
        missing) post := by
  intro passed token ahead
  refine .bind (.skipToText (fun before after _ ↦ ?_) fun _ ↦ ?_)
  · refine .bind (.advance rfl ((hfound passed _ after).mono fun a token' _ ⟨hkept, hpost⟩ ↦ ?_))
    rw [List.append_assoc] at hkept
    exact ⟨(List.prefix_append _ _).trans hkept, hpost⟩
  · exact hmissing passed token ahead

end Forward

/-! ## Taking -/

namespace Takes

theorem bind {action : Scan β} {next : β → Scan α} {middle : β → Prop}
    (h : Takes action middle) (hnext : ∀ b, middle b → Forward (next b) post) :
    Takes (action >>= next) post := by
  intro passed ahead hahead
  refine .bind ((h passed ahead hahead).mono fun b token ahead' ⟨htoken, hmiddle⟩ ↦ ?_)
  exact (hnext b hmiddle).reads htoken

/-- An attempt comes first: after it the token is there, or it is still to be taken. -/
theorem orElse {action : Scan Bool} {first second : Scan α} (h : Tries action)
    (hfirst : Forward first post) (hsecond : Takes second post) :
    Takes (action >>= fun found ↦ if found then first else second) post := by
  intro passed ahead hahead
  obtain ⟨found, token, ahead', hline, rfl, hrun⟩ := h passed ahead
  refine .bind ⟨_, token, ahead', hline, ?_, hrun⟩
  cases token with
  | nil =>
    rw [List.nil_append, List.nil_append] at hline
    rw [hline]
    exact hsecond passed ahead hahead
  | cons c token => exact hfirst.reads (List.cons_ne_nil c token)

/-- If an attempt takes nothing, what is done instead has to. -/
theorem orElse_not {action : Scan Bool} {first second : Scan α} (h : Tries action)
    (hfirst : Forward first post) (hsecond : Takes second post) :
    Takes (action >>= fun found ↦ if !found then second else first) post := by
  have hswap : (action >>= fun found ↦ if !found then second else first) =
      action >>= fun found ↦ if found then first else second := by
    congr 1
    funext found
    cases found <;> rfl
  rw [hswap]
  exact orElse h hfirst hsecond

theorem next : Takes Scan.next fun found ↦ found.isSome := by
  intro passed ahead hahead
  exact .next (fun c ahead' _ ↦ ⟨by simp, rfl⟩) fun hnil ↦ absurd hnil hahead

theorem skipToEnd : Takes Scan.skipToEnd fun _ ↦ True := by
  intro passed ahead hahead
  exact .skipToEnd ⟨by simpa using hahead, trivial⟩

/-- To go past a text that may lie ahead, or to the end of the line. -/
theorem skipOver {wanted : List Char} (hwanted : wanted ≠ []) {found missing : Scan α}
    (hfound : Forward found post) (hmissing : Forward missing post) :
    Takes (do
      if ← Scan.skipToText wanted then
        Scan.advance wanted
        found
      else
        Scan.skipToEnd
        missing) post := by
  intro passed ahead hahead
  refine .bind (.skipToText (fun before after _ ↦ ?_) fun _ ↦ ?_)
  · exact .bind (.advance rfl (hfound.reads (by simp [hwanted])))
  · exact .bind (.skipToEnd (hmissing.reads (by simpa using hahead)))

end Takes

/-! ## Trying -/

namespace Tries

theorem eatChar (c : Char) : Tries (Scan.eatChar c) := fun _ _ ↦
  .eatChar (fun _ _ ↦ rfl) fun _ ↦ rfl

theorem eatWhile (accepts : Char → Bool) : Tries (Scan.eatWhile accepts) := fun _ _ ↦
  .eatWhile rfl

theorem matchText {wanted : List Char} (hwanted : wanted ≠ []) :
    Tries (Scan.matchText wanted true) := fun _ _ ↦
  .matchText (fun _ _ ↦ by simpa using hwanted) fun _ ↦ rfl

/-- A pattern that consumes something takes something where it matches. -/
theorem eatPattern {pattern : Pattern} (hpattern : pattern.consumes = true) :
    Tries (Scan.eatPattern pattern) := fun _ _ ↦
  .eatPattern (fun _ _ _ htaken ↦ by simpa using htaken hpattern) rfl

end Tries

end LineLexer.Scan
