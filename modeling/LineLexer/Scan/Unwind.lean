import LineLexer.Scan.Program

/-!
# Programs that panic

A program may also run with nothing that catches a panic: then the first one ends it, the nested
programs around it included, each of which gives back the hidden part on the way out. A bad slice
panics, so does a nested program that gives up, and so does a column that no word holds if the build
checks for overflow.
-/

namespace LineLexer

inductive Panic where
  | badSlice
  | overflow
  | gaveUp
deriving DecidableEq, Repr

/-- The panic that an answer stands for. -/
def Answer.panic? : Answer → Option Panic
  | .badSlice => some .badSlice
  | _ => none

/-- Asks for the column of the token in a build that checks for overflow. The remembered column is
brought up to the token first, and stays there if the column of the hidden part overflows. -/
def Cursor.checkColumn (cursor : Cursor) : Option Panic × Cursor :=
  match cursor.recallColumn? with
  | none => (some .overflow, cursor)
  | some reached => (if reached.hiddenColumn?.isNone then some .overflow else none, reached)

mutual

/-- The panic of an action, if there is one, and the cursor it leaves behind. -/
def Action.unwind (checks : Bool) (action : Action) (cursor : Cursor) : Option Panic × Cursor :=
  match action with
  | .column => if checks then cursor.checkColumn else (none, cursor.recallColumn)
  | .indentation => (if checks && cursor.indentation?.isNone then some .overflow else none, cursor)
  | .hide n body givesUp =>
    match (Scan.hiddenAfter n).run cursor with
    | .error _ => (some .badSlice, cursor)
    | .ok (boundary, _) =>
      let (panic, last) := unwindActions checks body { cursor with lineStart := boundary }
      (panic.or (if givesUp then some .gaveUp else none), { last with lineStart := cursor.lineStart })
  | action => ((action.run cursor).1.panic?, (action.run cursor).2)

/-- Runs a program up to its first panic. -/
def unwindActions (checks : Bool) (program : List Action) (cursor : Cursor) :
    Option Panic × Cursor :=
  match program with
  | [] => (none, cursor)
  | action :: program =>
    match action.unwind checks cursor with
    | (none, reached) => unwindActions checks program reached
    | (some panic, reached) => (some panic, reached)

end

end LineLexer
