import LineLexer.Mode.Property
import LineLexer.Scan.Cursor
import LineLexer.State.Basic
import LineLexer.Token.Class

/-!
# Modes

A mode is a grammar at work: an operation that reads one token, and optional operations on the
states between lines. An extension may replace an operation; the operation it replaces stays
reachable as the shadowed one.

A mode may hand part of a text to another mode. `Mode.innermost` follows such reports to the mode
that is at work for a given state; it ends because a reported mode is a part of the one that
reports it, or is that mode itself.
-/

namespace LineLexer

/-- Reads one token: moves the cursor, and gives the token's class and the new state. -/
abbrev TokenOp := State → Scan (Option TokenClass × State)

/-- Suggests the indentation of a line, or declines. -/
abbrev IndentOp := State → Line → Option Nat

/-- A value and the value it replaced, if it replaced one. -/
structure Overridable (α : Type) where
  current : α
  shadowed : Option α := none

namespace Overridable

variable {α : Type}

/-- Replaces a value, which becomes the shadowed one. -/
def replace (slot : Option (Overridable α)) (value : α) : Overridable α :=
  match slot with
  | some ⟨current, _⟩ => ⟨value, some current⟩
  | none => ⟨value, none⟩

/-- Sets a value without shadowing the one before. -/
def assign (slot : Option (Overridable α)) (value : α) : Overridable α :=
  ⟨value, slot.bind shadowed⟩

end Overridable

/-- The mode at work inside a mode, and its state. -/
inductive Delegate (μ : Type) where
  | itself (state : State)
  | nested (mode : μ) (state : State)

structure Mode where
  name : String := ""
  helperType : Option String := none
  props : Table (Overridable Property) := {}
  token : Overridable TokenOp
  startState : Option (Overridable (Nat → State)) := none
  copyState : Option (Overridable (State → State)) := none
  inner : Option (Overridable (State → Option (Delegate Mode))) := none
  indent : Option (Overridable IndentOp) := none
  blankLine : Option (Overridable (State → State)) := none

namespace Mode

/-- A mode that has only a token operation. -/
def ofToken (token : TokenOp) : Mode := { token := ⟨token, none⟩ }

def withStartState (mode : Mode) (op : Nat → State) : Mode :=
  { mode with startState := some ⟨op, none⟩ }

def withCopyState (mode : Mode) (op : State → State) : Mode :=
  { mode with copyState := some ⟨op, none⟩ }

def withInner (mode : Mode) (op : State → Option (Delegate Mode)) : Mode :=
  { mode with inner := some ⟨op, none⟩ }

def withIndent (mode : Mode) (op : IndentOp) : Mode :=
  { mode with indent := some ⟨op, none⟩ }

def withBlankLine (mode : Mode) (op : State → State) : Mode :=
  { mode with blankLine := some ⟨op, none⟩ }

def withProp (mode : Mode) (key : String) (value : Property) : Mode :=
  { mode with props := mode.props.insert key ⟨value, none⟩ }

/-- Reads one token. -/
def readToken (mode : Mode) : TokenOp := mode.token.current

/-- Reads one token by the operation that an extension replaced, or by the mode's own. -/
def readShadowedToken (mode : Mode) : TokenOp := mode.token.shadowed.getD mode.token.current

/-- The state before a text at a given indentation. -/
def start (mode : Mode) (baseIndent : Nat) : State :=
  match mode.startState with
  | some op => op.current baseIndent
  | none => .stateless

/-- A copy of a state. The mode's own operation makes it, but a stateless state has one copy. -/
def copy (mode : Mode) (state : State) : State :=
  if state.isStateless then .stateless
  else match mode.copyState with
    | some op => op.current state
    | none => state

/-- The indentation of a line that starts with `text`, or nothing when the mode declines. -/
def suggestIndent (mode : Mode) : IndentOp := fun state text ↦
  mode.indent.bind fun op ↦ op.current state text

/-- The indentation by the operation that an extension replaced. -/
def suggestShadowedIndent (mode : Mode) : IndentOp := fun state text ↦
  (mode.indent.bind Overridable.shadowed).bind fun op ↦ op state text

/-- The state after an empty line. -/
def skipBlankLine (mode : Mode) (state : State) : State :=
  match mode.blankLine with
  | some op => op.current state
  | none => state

/-- What the mode reports to be at work inside it. -/
def delegate (mode : Mode) (state : State) : Option (Delegate Mode) :=
  mode.inner.bind fun op ↦ op.current state

def prop? (mode : Mode) (key : String) : Option Property :=
  (mode.props.find? key).map Overridable.current

/-- The property that an extension replaced. -/
def shadowedProp? (mode : Mode) (key : String) : Option Property :=
  (mode.props.find? key).bind Overridable.shadowed

/-- Sets a property without shadowing the one before. -/
def assignProp (mode : Mode) (key : String) (value : Property) : Mode :=
  { mode with props := mode.props.insert key (.assign (mode.props.find? key) value) }

/-- Replaces a property, which stays reachable as the shadowed one. -/
def replaceProp (mode : Mode) (key : String) (value : Property) : Mode :=
  { mode with props := mode.props.insert key (.replace (mode.props.find? key) value) }

mutual

/-- The mode at work for a state, found by following reports until a mode reports nothing or
itself. -/
def innermost (mode : Mode) (state : State) : Mode × State :=
  match mode with
  | ⟨name, helperType, props, token, startState, copyState, inner, indent, blankLine⟩ =>
    innermostOfSlot
      ⟨name, helperType, props, token, startState, copyState, inner, indent, blankLine⟩ state inner
termination_by structural mode

def innermostOfSlot (mode : Mode) (state : State)
    (slot : Option (Overridable (State → Option (Delegate Mode)))) : Mode × State :=
  match slot with
  | none => (mode, state)
  | some op => innermostOfOp mode state op
termination_by structural slot

def innermostOfOp (mode : Mode) (state : State)
    (op : Overridable (State → Option (Delegate Mode))) : Mode × State :=
  match op with
  | ⟨current, _⟩ => innermostOfReport mode state (current state)
termination_by structural op

def innermostOfReport (mode : Mode) (state : State) (report : Option (Delegate Mode)) :
    Mode × State :=
  match report with
  | none => (mode, state)
  | some found => innermostOfDelegate mode found
termination_by structural report

def innermostOfDelegate (mode : Mode) (found : Delegate Mode) : Mode × State :=
  match found with
  | .itself state => (mode, state)
  | .nested mode state => mode.innermost state
termination_by structural found

end

/-- One step of the search for the innermost mode. -/
theorem innermost_eq (mode : Mode) (state : State) :
    mode.innermost state =
      match mode.delegate state with
      | none => (mode, state)
      | some (.itself state) => (mode, state)
      | some (.nested mode state) => mode.innermost state := by
  obtain ⟨_, _, _, _, _, _, inner, _, _⟩ := mode
  cases inner with
  | none => simp [innermost, innermostOfSlot, delegate]
  | some op =>
    obtain ⟨current, _⟩ := op
    simp only [innermost, innermostOfSlot, innermostOfOp, delegate, Option.bind_some]
    cases current state with
    | none => simp [innermostOfReport]
    | some found => cases found <;> simp [innermostOfReport, innermostOfDelegate]

/-- Plain text: the rest of the line is one token without a class. -/
def plainText : Mode :=
  ofToken fun state ↦ do
    Scan.skipToEnd
    return (none, state)

end Mode

instance : Inhabited Mode := ⟨Mode.plainText⟩

end LineLexer
