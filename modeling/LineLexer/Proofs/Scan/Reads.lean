import LineLexer.Proofs.Pattern.Consumes
import LineLexer.Proofs.Scan.Placed

/-!
# Reading a token

A logic for scanning actions on a divided line. An action *reads* if it moves text between the token
and the text ahead without a fault, and in the same way whatever the hidden part of the line is.
There is one rule for every action, and grammars are taken apart by these rules alone.
-/

namespace LineLexer.Scan

open Outcome

variable {α β : Type} {passed token ahead : List Char}

/-- Whatever is hidden, the action moves text between the token and the text ahead, and what it
answers and leaves satisfies `post`. -/
def Reads (action : Scan α) (passed token ahead : List Char)
    (post : α → List Char → List Char → Prop) : Prop :=
  ∃ a token' ahead', token' ++ ahead' = token ++ ahead ∧ post a token' ahead' ∧
    ∀ base hidden, action (Cursor.placed base hidden passed token ahead) =
      .ok (a, Cursor.placed base hidden passed token' ahead')

namespace Reads

variable {post other : α → List Char → List Char → Prop}

theorem mono {action : Scan α} (h : Reads action passed token ahead post)
    (himp : ∀ a token' ahead', post a token' ahead' → other a token' ahead') :
    Reads action passed token ahead other := by
  obtain ⟨a, token', ahead', hline, hpost, hrun⟩ := h
  exact ⟨a, token', ahead', hline, himp a token' ahead' hpost, hrun⟩

/-- What an action has done at one cursor is what it does at all of them. -/
theorem of_run {action : Scan α} (h : Reads action passed token ahead post) {base : Cursor}
    {hidden token' ahead' : List Char} {a : α}
    (hrun : action (base.placed hidden passed token ahead) =
      .ok (a, base.placed hidden passed token' ahead')) : post a token' ahead' := by
  obtain ⟨b, token'', ahead'', _, hpost, hreads⟩ := h
  obtain ⟨rfl, hcursor⟩ := Prod.mk.inj (Except.ok.inj ((hreads base hidden).symm.trans hrun))
  obtain ⟨rfl, rfl⟩ := Cursor.placed_inj hcursor
  exact hpost

/-- The action itself is known to do what `post` tells of it. -/
theorem with_run {action : Scan α} (h : Reads action passed token ahead post) :
    Reads action passed token ahead fun a token' ahead' ↦ post a token' ahead' ∧
      ∀ base hidden, action (Cursor.placed base hidden passed token ahead) =
        .ok (a, Cursor.placed base hidden passed token' ahead') := by
  obtain ⟨a, token', ahead', hline, hpost, hrun⟩ := h
  exact ⟨a, token', ahead', hline, ⟨hpost, hrun⟩, hrun⟩

/-- The token and the text ahead stay the same text. -/
theorem with_line {action : Scan α} (h : Reads action passed token ahead post) :
    Reads action passed token ahead fun a token' ahead' ↦
      post a token' ahead' ∧ token' ++ ahead' = token ++ ahead := by
  obtain ⟨a, token', ahead', hline, hpost, hrun⟩ := h
  exact ⟨a, token', ahead', hline, ⟨hpost, hline⟩, hrun⟩

theorem and {action : Scan α} (h : Reads action passed token ahead post)
    (hother : Reads action passed token ahead other) :
    Reads action passed token ahead fun a token' ahead' ↦
      post a token' ahead' ∧ other a token' ahead' := by
  obtain ⟨a, token', ahead', hline, hpost, hrun⟩ := h
  exact ⟨a, token', ahead', hline, ⟨hpost, hother.of_run (hrun (.ofLine [] 0) [])⟩, hrun⟩

theorem pure {a : α} (h : post a token ahead) : Reads (pure a) passed token ahead post :=
  ⟨a, token, ahead, rfl, h, fun _ _ ↦ rfl⟩

/-- The second action reads where the first one stopped. -/
theorem bind {action : Scan β} {next : β → Scan α}
    (h : Reads action passed token ahead fun b token' ahead' ↦
      Reads (next b) passed token' ahead' post) :
    Reads (action >>= next) passed token ahead post := by
  obtain ⟨b, token', ahead', hline, ⟨a, token'', ahead'', hline', hpost, hnext⟩, hrun⟩ := h
  refine ⟨a, token'', ahead'', hline'.trans hline, hpost, fun base hidden ↦ ?_⟩
  rw [bind_apply, hrun, ok_bind, hnext]

theorem ite {p : Prop} [Decidable p] {first second : Scan α}
    (hfirst : p → Reads first passed token ahead post)
    (hsecond : ¬ p → Reads second passed token ahead post) :
    Reads (if p then first else second) passed token ahead post := by
  split
  · exact hfirst ‹_›
  · exact hsecond ‹_›

/-! ## Looking -/

theorem rest {post : List Char → List Char → List Char → Prop} (h : post ahead token ahead) :
    Reads Scan.rest passed token ahead post :=
  ⟨ahead, token, ahead, rfl, h, fun _ _ ↦ rest_placed _ _ _ _ _⟩

theorem current {post : List Char → List Char → List Char → Prop} (h : post token token ahead) :
    Reads Scan.current passed token ahead post :=
  ⟨token, token, ahead, rfl, h, fun _ _ ↦ current_placed _ _ _ _ _⟩

theorem peek {post : Option Char → List Char → List Char → Prop}
    (h : post ahead.head? token ahead) : Reads Scan.peek passed token ahead post :=
  ⟨ahead.head?, token, ahead, rfl, h, fun _ _ ↦ peek_placed _ _ _ _ _⟩

/-- The start of the line is where no visible text has been passed. -/
theorem atStart (next : Bool → Scan α)
    (h : Reads (next (passed ++ token).isEmpty) passed token ahead post) :
    Reads (get >>= fun cursor ↦ next cursor.atStart) passed token ahead post := by
  obtain ⟨a, token', ahead', hline, hpost, hrun⟩ := h
  refine ⟨a, token', ahead', hline, hpost, fun base hidden ↦ ?_⟩
  rw [bind_apply, get_apply, ok_bind, atStart_placed, hrun]

/-- The visible text passed before the cursor. -/
theorem visible (next : List Char → Scan α)
    (h : Reads (next (passed ++ token)) passed token ahead post) :
    Reads (get >>= fun cursor ↦
        liftM (slice cursor.line (min cursor.lineStart cursor.pos) cursor.pos) >>= next)
      passed token ahead post := by
  obtain ⟨a, token', ahead', hline, hpost, hrun⟩ := h
  refine ⟨a, token', ahead', hline, hpost, fun base hidden ↦ ?_⟩
  have hslice := slice_append hidden (passed ++ token) ahead
  rw [byteLength_append, List.append_assoc] at hslice
  rw [bind_apply, get_apply, ok_bind, bind_apply, lift_apply]
  simp only [Cursor.placed, Nat.min_eq_left (Nat.le_add_right _ _), hslice, ok_bind]
  exact hrun base hidden

/-! ## Taking -/

theorem advance {post : Unit → List Char → List Char → Prop} {text ahead' : List Char}
    (hahead : ahead = text ++ ahead') (h : post () (token ++ text) ahead') :
    Reads (Scan.advance text) passed token ahead post := by
  subst hahead
  exact ⟨(), token ++ text, ahead', by simp, h, fun _ _ ↦ advance_placed _ _ _ _ _ _⟩

theorem skipToEnd {post : Unit → List Char → List Char → Prop} (h : post () (token ++ ahead) []) :
    Reads Scan.skipToEnd passed token ahead post :=
  ⟨(), token ++ ahead, [], by simp, h, fun _ _ ↦ skipToEnd_placed _ _ _ _ _⟩

/-- One character is taken if it is accepted. -/
theorem eat {post : Option Char → List Char → List Char → Prop} {accepts : Char → Bool}
    (hyes : ∀ c ahead', ahead = c :: ahead' → accepts c = true →
      post (some c) (token ++ [c]) ahead')
    (hno : (∀ c ∈ ahead.head?, accepts c = false) → post none token ahead) :
    Reads (Scan.eat accepts) passed token ahead post := by
  cases ahead with
  | nil => exact ⟨none, token, [], rfl, hno (by simp), fun _ _ ↦ eat_placed_nil _ _ _ _ _⟩
  | cons c ahead =>
    by_cases haccepts : accepts c = true
    · refine ⟨some c, token ++ [c], ahead, by simp, hyes c ahead rfl haccepts, fun _ _ ↦ ?_⟩
      rw [eat_placed_cons, if_pos haccepts]
    · refine ⟨none, token, c :: ahead, rfl, hno (by simpa using haccepts), fun _ _ ↦ ?_⟩
      rw [eat_placed_cons, if_neg haccepts]

theorem next {post : Option Char → List Char → List Char → Prop}
    (hyes : ∀ c ahead', ahead = c :: ahead' → post (some c) (token ++ [c]) ahead')
    (hno : ahead = [] → post none token ahead) : Reads Scan.next passed token ahead post := by
  refine eat (fun c ahead' hahead _ ↦ hyes c ahead' hahead) fun hrejects ↦ hno ?_
  cases ahead with
  | nil => rfl
  | cons c ahead => simp at hrejects

theorem eatChar {post : Bool → List Char → List Char → Prop} {c : Char}
    (hyes : ∀ ahead', ahead = c :: ahead' → post true (token ++ [c]) ahead')
    (hno : ahead.head? ≠ some c → post false token ahead) :
    Reads (Scan.eatChar c) passed token ahead post := by
  refine bind (eat (fun d ahead' hahead haccepts ↦ pure ?_) fun hrejects ↦ pure (hno ?_))
  · obtain rfl : d = c := by simpa using haccepts
    exact hyes ahead' hahead
  · intro hhead
    simpa using hrejects c hhead

/-- All accepted characters are taken, up to the first that is not. -/
theorem eatWhile {post : Bool → List Char → List Char → Prop} {accepts : Char → Bool}
    (h : post (!(ahead.takeWhile accepts).isEmpty) (token ++ ahead.takeWhile accepts)
      (ahead.dropWhile accepts)) :
    Reads (Scan.eatWhile accepts) passed token ahead post := by
  refine ⟨_, _, _, ?_, h, fun _ _ ↦ eatWhile_placed _ _ _ _ _ _⟩
  rw [List.append_assoc, List.takeWhile_append_dropWhile]

/-- Either a text is taken or none. -/
theorem eatSome {post : Bool → List Char → List Char → Prop} {accepts : Char → Bool}
    (hyes : ∀ taken ahead', ahead = taken ++ ahead' → taken ≠ [] → post true (token ++ taken) ahead')
    (hno : (∀ c ∈ ahead.head?, accepts c = false) → post false token ahead) :
    Reads (Scan.eatWhile accepts) passed token ahead post := by
  have hsplit : ahead.takeWhile accepts ++ ahead.dropWhile accepts = ahead :=
    List.takeWhile_append_dropWhile
  refine eatWhile ?_
  cases htaken : ahead.takeWhile accepts with
  | nil =>
    rw [htaken, List.nil_append] at hsplit
    rw [hsplit, List.append_nil]
    refine hno ?_
    cases ahead with
    | nil => simp
    | cons c ahead => simpa [List.takeWhile_cons] using htaken
  | cons c taken =>
    rw [htaken] at hsplit
    exact hyes (c :: taken) _ hsplit.symm (by simp)

/-- A text that stands ahead, with its first occurrence known. -/
theorem skipToText_found {post : Bool → List Char → List Char → Prop}
    {wanted before after : List Char}
    (hoffset : offsetOf? wanted (before ++ (wanted ++ after)) = some (byteLength before))
    (h : post true (token ++ before) (wanted ++ after)) :
    Reads (Scan.skipToText wanted) passed token (before ++ (wanted ++ after)) post :=
  ⟨true, token ++ before, wanted ++ after, by simp, h,
    fun _ _ ↦ skipToText_placed_some _ _ _ _ hoffset⟩

theorem skipToText_missing {post : Bool → List Char → List Char → Prop} {wanted : List Char}
    (hoffset : offsetOf? wanted ahead = none) (h : post false token ahead) :
    Reads (Scan.skipToText wanted) passed token ahead post :=
  ⟨false, token, ahead, rfl, h, fun _ _ ↦ skipToText_placed_none _ _ _ _ _ hoffset⟩

/-- The text up to the wanted one is taken, if there is one. -/
theorem skipToText {post : Bool → List Char → List Char → Prop} {wanted : List Char}
    (hyes : ∀ before after, ahead = before ++ (wanted ++ after) →
      post true (token ++ before) (wanted ++ after))
    (hno : offsetOf? wanted ahead = none → post false token ahead) :
    Reads (Scan.skipToText wanted) passed token ahead post := by
  cases hoffset : offsetOf? wanted ahead with
  | none => exact skipToText_missing hoffset (hno hoffset)
  | some offset =>
    obtain ⟨before, after, rfl, rfl⟩ := offsetOf?_eq_some hoffset
    exact skipToText_found hoffset (hyes before after rfl)

theorem matchText {post : Bool → List Char → List Char → Prop} {wanted : List Char}
    (hyes : ∀ after, ahead = wanted ++ after → post true (token ++ wanted) after)
    (hno : wanted.isPrefixOf ahead = false → post false token ahead) :
    Reads (Scan.matchText wanted true) passed token ahead post := by
  cases hprefix : wanted.isPrefixOf ahead with
  | false =>
    exact ⟨false, token, ahead, rfl, hno hprefix, fun _ _ ↦ matchText_placed_of_not _ _ _ _ _ hprefix⟩
  | true =>
    obtain ⟨after, rfl⟩ := List.isPrefixOf_iff_prefix.1 hprefix
    exact ⟨true, token ++ wanted, after, by simp, hyes after rfl,
      fun _ _ ↦ matchText_placed _ _ _ _ _ _⟩

/-- Some text is taken where a pattern matches, and not an empty one if the pattern consumes
something. -/
theorem eatPattern {post : Bool → List Char → List Char → Prop} {pattern : Pattern}
    (hyes : ∀ taken after, ahead = taken ++ after → (pattern.consumes = true → taken ≠ []) →
      post true (token ++ taken) after)
    (hno : post false token ahead) :
    Reads (Scan.eatPattern pattern) passed token ahead post := by
  cases hmatch : pattern.match? ahead with
  | none => exact ⟨false, token, ahead, rfl, hno, fun _ _ ↦ eatPattern_placed_none _ _ _ _ _ hmatch⟩
  | some found =>
    obtain ⟨after, rfl, hconsumes⟩ := Pattern.match?_text hmatch
    exact ⟨true, token ++ found.text, after, by simp, hyes found.text after rfl hconsumes,
      fun _ _ ↦ eatPattern_placed_some _ _ _ _ _ hmatch⟩

/-! ## Known text -/

theorem eatRun {post : Bool → List Char → List Char → Prop} {accepts : Char → Bool}
    {taken rest : List Char} (htaken : ∀ c ∈ taken, accepts c = true)
    (hrest : ∀ c ∈ rest.head?, accepts c = false)
    (h : post (!taken.isEmpty) (token ++ taken) rest) :
    Reads (Scan.eatWhile accepts) passed token (taken ++ rest) post := by
  have hstop : rest.takeWhile accepts = [] ∧ rest.dropWhile accepts = rest := by
    cases rest with
    | nil => exact ⟨rfl, rfl⟩
    | cons c rest => simp [hrest c rfl]
  refine eatWhile ?_
  rw [List.takeWhile_append_of_pos htaken, List.dropWhile_append_of_pos htaken, hstop.1, hstop.2,
    List.append_nil]
  exact h

theorem eatRun_nil {post : Bool → List Char → List Char → Prop} {accepts : Char → Bool}
    (hahead : ∀ c ∈ ahead.head?, accepts c = false) (h : post false token ahead) :
    Reads (Scan.eatWhile accepts) passed token ahead post := by
  have hnone := @eatRun passed token post accepts [] ahead (List.forall_mem_nil _) hahead
  rw [List.append_nil] at hnone
  exact hnone h

theorem eat_self {post : Option Char → List Char → List Char → Prop} {accepts : Char → Bool}
    {c : Char} (hc : accepts c = true) (h : post (some c) (token ++ [c]) ahead) :
    Reads (Scan.eat accepts) passed token (c :: ahead) post := by
  refine eat (fun d ahead' hahead _ ↦ ?_) fun hno ↦ ?_
  · obtain ⟨rfl, rfl⟩ := List.cons.inj hahead
    exact h
  · rw [hno c rfl] at hc
    cases hc

theorem eat_other {post : Option Char → List Char → List Char → Prop} {accepts : Char → Bool}
    (hahead : ∀ c ∈ ahead.head?, accepts c = false) (h : post none token ahead) :
    Reads (Scan.eat accepts) passed token ahead post := by
  refine eat (fun c ahead' hcons hc ↦ ?_) fun _ ↦ h
  rw [hahead c (by rw [hcons]; rfl)] at hc
  cases hc

theorem eatChar_self {post : Bool → List Char → List Char → Prop} {c : Char}
    (h : post true (token ++ [c]) ahead) :
    Reads (Scan.eatChar c) passed token (c :: ahead) post := by
  refine eatChar (fun ahead' hahead ↦ ?_) fun hno ↦ absurd rfl hno
  obtain rfl : ahead = ahead' := (List.cons.inj hahead).2
  exact h

theorem eatChar_other {post : Bool → List Char → List Char → Prop} {c : Char}
    (hc : ahead.head? ≠ some c) (h : post false token ahead) :
    Reads (Scan.eatChar c) passed token ahead post :=
  eatChar (fun _ hahead ↦ absurd (congrArg List.head? hahead) hc) fun _ ↦ h

theorem matchText_self {post : Bool → List Char → List Char → Prop} {wanted : List Char}
    (h : post true (token ++ wanted) ahead) :
    Reads (Scan.matchText wanted true) passed token (wanted ++ ahead) post := by
  refine matchText (fun after hafter ↦ ?_) fun hno ↦ ?_
  · obtain rfl : ahead = after := List.append_cancel_left hafter
    exact h
  · rw [List.isPrefixOf_iff_prefix.2 (List.prefix_append _ _)] at hno
    cases hno

theorem matchText_other {post : Bool → List Char → List Char → Prop} {wanted : List Char}
    (hwanted : ¬ wanted <+: ahead) (h : post false token ahead) :
    Reads (Scan.matchText wanted true) passed token ahead post :=
  matchText (fun _ hafter ↦ absurd (hafter ▸ List.prefix_append _ _) hwanted) fun _ ↦ h

/-! ## Giving back -/

/-- The last characters of the token go back to the text ahead. -/
theorem backUp {post : Unit → List Char → List Char → Prop} {n : Nat} {before text : List Char}
    (htoken : token = before ++ text) (hlength : text.length = n)
    (h : post () before (text ++ ahead)) : Reads (Scan.backUp n) passed token ahead post := by
  subst htoken hlength
  exact ⟨(), before, text ++ ahead, by simp, h, fun _ _ ↦ backUp_placed _ _ _ _ _ _⟩

end Reads

end LineLexer.Scan
