/-!
# Outcomes

Equations for computations that end in a value or in a fault.
-/

namespace LineLexer.Outcome

variable {ε φ α β : Type}

@[simp] theorem pure_eq_ok (a : α) : (pure a : Except ε α) = .ok a := rfl

@[simp] theorem ok_bind (a : α) (next : α → Except ε β) :
    ((Except.ok a : Except ε α) >>= next) = next a := rfl

@[simp] theorem error_bind (fault : ε) (next : α → Except ε β) :
    ((Except.error fault : Except ε α) >>= next) = .error fault := rfl

theorem bind_ok (outcome : Except ε α) : (outcome >>= fun a ↦ .ok a) = outcome := by
  cases outcome <;> rfl

@[simp] theorem map_ok (f : α → β) (a : α) : (Except.ok a : Except ε α).map f = .ok (f a) := rfl

@[simp] theorem map_error (f : α → β) (fault : ε) :
    (Except.error fault : Except ε α).map f = .error fault := rfl

@[simp] theorem mapError_ok (f : ε → φ) (a : α) :
    (Except.ok a : Except ε α).mapError f = .ok a := rfl

/-- A computation ends in a value exactly if both of its parts do. -/
theorem bind_eq_ok_iff {outcome : Except ε α} {next : α → Except ε β} {b : β} :
    outcome >>= next = .ok b ↔ ∃ a, outcome = .ok a ∧ next a = .ok b := by
  cases outcome with
  | error fault => simp
  | ok a => simp

theorem map_eq_ok_iff {outcome : Except ε α} {f : α → β} {b : β} :
    outcome.map f = .ok b ↔ ∃ a, outcome = .ok a ∧ f a = b := by
  cases outcome with
  | error fault => simp
  | ok a => simp

/-- To wrap the first part of two outcomes keeps them alike in that part. -/
theorem map_fst_bind_eq {γ : Type} {first second : Except ε (α × β)} (wrap : α → γ)
    (h : first.map Prod.fst = second.map Prod.fst) :
    (first >>= fun (a, b) ↦ pure (wrap a, b)).map Prod.fst =
      (second >>= fun (a, b) ↦ pure (wrap a, b)).map Prod.fst := by
  cases first <;> cases second <;> simp_all

end LineLexer.Outcome
