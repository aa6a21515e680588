import LineLexer.Proofs.Scan.Placed

/-!
# What every answer satisfies

An action ensures a property if all its answers have it, whatever the line and wherever the cursor
stands, in the middle of a character too. Rules for each way to combine actions carry such a
property through a grammar function without a look at the cursor.
-/

namespace LineLexer.Scan

open Outcome

variable {α β : Type}

/-- Every answer of the action has the property. -/
structure Ensures (action : Scan α) (post : α → Prop) : Prop where
  of_run : ∀ {cursor a reached}, action cursor = .ok (a, reached) → post a

namespace Ensures

variable {post : α → Prop}

theorem mono {action : Scan α} {middle : α → Prop} (h : Ensures action middle)
    (himp : ∀ a, middle a → post a) : Ensures action post where
  of_run hrun := himp _ (h.of_run hrun)

theorem pure {a : α} (h : post a) : Ensures (pure a) post where
  of_run := by
    rintro cursor _ _ ⟨⟩
    exact h

theorem bind {action : Scan β} {next : β → Scan α} {middle : β → Prop}
    (h : Ensures action middle) (hnext : ∀ b, middle b → Ensures (next b) post) :
    Ensures (action >>= next) post where
  of_run := by
    intro cursor a reached hrun
    rw [bind_apply, bind_eq_ok_iff] at hrun
    obtain ⟨⟨b, between⟩, haction, hrest⟩ := hrun
    exact (hnext b (h.of_run haction)).of_run hrest

/-- The answer of the first action does not matter. -/
theorem andThen (action : Scan β) {next : β → Scan α} (hnext : ∀ b, Ensures (next b) post) :
    Ensures (action >>= next) post := by
  have hany : Ensures action fun _ ↦ True := ⟨fun _ ↦ trivial⟩
  exact hany.bind fun b _ ↦ hnext b

theorem ite {p : Prop} [Decidable p] {first second : Scan α} (hfirst : p → Ensures first post)
    (hsecond : ¬ p → Ensures second post) : Ensures (if p then first else second) post := by
  split
  · exact hfirst ‹_›
  · exact hsecond ‹_›

theorem branch (action : Scan Bool) {first second : Scan α} (hfirst : Ensures first post)
    (hsecond : Ensures second post) :
    Ensures (action >>= fun found ↦ if found then first else second) post :=
  andThen action fun _ ↦ ite (fun _ ↦ hfirst) fun _ ↦ hsecond

/-- Behind a hidden part the body ensures the same. -/
theorem withHidden {body : Scan α} (n : Nat) (h : Ensures body post) :
    Ensures (Scan.withHidden n body) post := by
  refine .andThen _ fun saved ↦ .andThen _ fun boundary ↦ .andThen _ fun _ ↦ ?_
  exact h.bind fun a ha ↦ .andThen _ fun _ ↦ .pure ha

/-- Only characters that are accepted are taken. -/
theorem eat (accepts : Char → Bool) :
    Ensures (Scan.eat accepts) fun found ↦ ∀ c ∈ found, accepts c = true := by
  apply andThen
  intro ahead
  cases ahead with
  | none => exact pure nofun
  | some c =>
    apply ite
    · intro haccepts
      refine andThen _ fun _ ↦ pure fun d hd ↦ ?_
      cases hd
      exact haccepts
    · exact fun _ ↦ pure nofun

end Ensures

end LineLexer.Scan
