import LineLexer.Proofs.Highlight.Calls
import LineLexer.Proofs.Scan.Ensures

/-!
# States that are visited

The states in which a mode is called, not only those that it comes to at the ends of lines: each
call from a visited state leads to another one, on any line and wherever the cursor stands. What
every single call keeps holds of all these states.
-/

namespace LineLexer

open Scan Outcome

/-- A state that a mode visits from the start of a text at an indentation: after a call, after a
line, or as a copy. -/
inductive Visited (mode : Mode) (baseIndent : Nat) : State → Prop where
  | start : Visited mode baseIndent (mode.start baseIndent)
  | call {state after : State} {cursor reached : Cursor} {cls : Option TokenClass}
      (hstate : Visited mode baseIndent state)
      (hcall : mode.readToken state cursor = .ok ((cls, after), reached)) :
      Visited mode baseIndent after
  | line {state after : State} {line : Line} {tabSize : Nat} {tokens : List Token}
      (hstate : Visited mode baseIndent state)
      (hline : tokenizeLine mode line state tabSize = .ok (tokens, after)) :
      Visited mode baseIndent after
  | copy {state : State} (hstate : Visited mode baseIndent state) :
      Visited mode baseIndent (mode.copy state)

/-- No operation of the mode leads from a state with the property to one without it. -/
structure Mode.Keeps (mode : Mode) (Fits : State → Prop) : Prop where
  copy : ∀ state, Fits state → Fits (mode.copy state)
  skipBlankLine : ∀ state, Fits state → Fits (mode.skipBlankLine state)
  readToken : ∀ state, Fits state → Ensures (mode.readToken state) fun answer ↦ Fits answer.2

namespace Mode.Keeps

variable {mode : Mode} {Fits : State → Prop}

/-- What every call keeps holds at the end of a line. -/
theorem of_lineRun (h : mode.Keeps Fits) {cursor : Cursor} {stalled : Nat} {state last : State}
    {calls : List Call} {rest : Option Token}
    (hrun : LineRun mode.readToken cursor stalled state calls rest last) (hstate : Fits state) :
    Fits last := by
  induction hrun with
  | done => exact hstate
  | giveUp _ hcall => exact (h.readToken _ hstate).of_run hcall
  | stall _ hcall _ _ _ ih => exact ih ((h.readToken _ hstate).of_run hcall)
  | advance _ hcall _ _ ih => exact ih ((h.readToken _ hstate).of_run hcall)

theorem of_tokenizeLine (h : mode.Keeps Fits) {line : Line} {state after : State} {tabSize : Nat}
    {tokens : List Token} (hline : tokenizeLine mode line state tabSize = .ok (tokens, after))
    (hstate : Fits state) : Fits after := by
  rw [tokenizeLine] at hline
  split at hline
  · cases hline
    exact h.skipBlankLine state hstate
  · obtain ⟨_, _, hrun, _⟩ := exists_lineRun hline
    exact h.of_lineRun hrun hstate

/-- What holds at the start and is kept holds of all that is visited. -/
theorem of_visited (h : mode.Keeps Fits) {baseIndent : Nat} (hstart : Fits (mode.start baseIndent))
    {state : State} (hstate : Visited mode baseIndent state) : Fits state := by
  induction hstate with
  | start => exact hstart
  | call _ hcall ih => exact (h.readToken _ ih).of_run hcall
  | line _ hline ih => exact h.of_tokenizeLine hline ih
  | copy _ ih => exact h.copy _ ih

/-- The operations of a mode do not depend on its labels. -/
theorem labelled (h : mode.Keeps Fits) (name : String) (helperType : Option String)
    (props : Table (Overridable Property)) :
    Mode.Keeps { mode with name, helperType, props } Fits :=
  ⟨h.copy, h.skipBlankLine, h.readToken⟩

end Mode.Keeps

end LineLexer
