import LineLexer.Proofs.Outcome
import LineLexer.Proofs.Scan.Placed

/-!
# Two actions side by side

An action follows another if it reaches the same cursor wherever the other succeeds, with an answer
that is related to the other's. Programs that differ only in the data they carry are compared step
by step: what they do to the cursor is the same action on both sides.
-/

namespace LineLexer.Scan

open Outcome

variable {α β γ : Type}

/-- Wherever the first action succeeds, the second reaches the same cursor with a related answer. -/
def Follows (related : α → β → Prop) (action : Scan α) (other : Scan β) : Prop :=
  ∀ ⦃cursor a reached⦄, action cursor = .ok (a, reached) →
    ∃ b, other cursor = .ok (b, reached) ∧ related a b

namespace Follows

variable {related : α → β → Prop}

theorem pure {a : α} {b : β} (h : related a b) : Follows related (pure a) (pure b) := by
  rintro cursor _ _ ⟨⟩
  exact ⟨b, rfl, h⟩

/-- Both sides begin with the same action. -/
theorem bind (action : Scan γ) {next : γ → Scan α} {next' : γ → Scan β}
    (h : ∀ c, Follows related (next c) (next' c)) :
    Follows related (action >>= next) (action >>= next') := by
  intro cursor a reached hrun
  rw [bind_apply, bind_eq_ok_iff] at hrun
  obtain ⟨⟨c, between⟩, haction, hnext⟩ := hrun
  obtain ⟨b, hother, hrelated⟩ := h c hnext
  refine ⟨b, ?_, hrelated⟩
  rw [bind_apply, haction, ok_bind, hother]

theorem ite {p : Prop} [Decidable p] {first second : Scan α} {first' second' : Scan β}
    (hfirst : p → Follows related first first') (hsecond : ¬ p → Follows related second second') :
    Follows related (if p then first else second) (if p then first' else second') := by
  split
  · exact hfirst ‹_›
  · exact hsecond ‹_›

/-- Both sides try the same first. -/
theorem branch (action : Scan Bool) {first second : Scan α} {first' second' : Scan β}
    (hfirst : Follows related first first') (hsecond : Follows related second second') :
    Follows related (action >>= fun found ↦ if found then first else second)
      (action >>= fun found ↦ if found then first' else second') :=
  .bind action fun _ ↦ .ite (fun _ ↦ hfirst) fun _ ↦ hsecond

end Follows

end LineLexer.Scan
