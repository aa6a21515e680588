import LineLexer.Mode.Basic

/-!
# Walks along reports

A mode may report that another mode is at work inside it. The walk along such reports is told apart
from the search for the innermost mode, as steps of which nothing says that they come to an end.
-/

namespace LineLexer

/-- A state that lies so many records deep in a state. -/
inductive State.Holds : State → Nat → State → Prop where
  | itself {state : State} : Holds state 0 state
  | field {record : Record} {key : String} {nested inside : State} {depth : Nat}
      (hfield : record.state? key = some nested) (hinside : Holds nested depth inside) :
      Holds (.record record) (depth + 1) inside

namespace Mode

/-- The walk from a mode and a state follows so many reports to the mode where it ends. It ends
where a mode reports nothing, or itself. -/
inductive Walk : Mode → State → Nat → Mode → State → Prop where
  | nothing {mode : Mode} {state : State} (hreport : mode.delegate state = none) :
      Walk mode state 0 mode state
  | itself {mode : Mode} {state inside : State}
      (hreport : mode.delegate state = some (.itself inside)) : Walk mode state 1 mode inside
  | nested {mode inner leaf : Mode} {state nested inside : State} {steps : Nat}
      (hreport : mode.delegate state = some (.nested inner nested))
      (hrest : Walk inner nested steps leaf inside) : Walk mode state (steps + 1) leaf inside

variable {mode inner leaf : Mode} {state nested inside : State} {steps : Nat}

theorem innermost_eq_self (hreport : mode.delegate state = none) :
    mode.innermost state = (mode, state) := by
  rw [innermost_eq, hreport]

theorem innermost_nested (hreport : mode.delegate state = some (.nested inner nested)) :
    mode.innermost state = inner.innermost nested := by
  rw [innermost_eq, hreport]

/-- A report of a mode with a state in a field is one more step, and leads one record deeper. -/
theorem exists_walk_nested {record : Record} {key : String}
    (hreport : mode.delegate (.record record) = some (.nested inner nested))
    (hfield : record.state? key = some nested)
    (h : ∃ steps, inner.Walk nested steps leaf inside ∧ nested.Holds steps inside) :
    ∃ steps, mode.Walk (.record record) steps leaf inside ∧
      State.Holds (.record record) steps inside := by
  obtain ⟨steps, hwalk, hholds⟩ := h
  exact ⟨steps + 1, .nested hreport hwalk, .field hfield hholds⟩

/-- Where a walk ends is what the search finds. -/
theorem Walk.innermost_eq (h : Walk mode state steps leaf inside) :
    mode.innermost state = (leaf, inside) := by
  induction h with
  | nothing hreport => exact innermost_eq_self hreport
  | itself hreport => rw [Mode.innermost_eq, hreport]
  | nested hreport _ ih => rw [innermost_nested hreport, ih]

end Mode

end LineLexer
