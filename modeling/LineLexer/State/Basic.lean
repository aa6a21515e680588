import LineLexer.Table

/-!
# Tokenizer states

What a mode carries from one line to the next. Most modes keep a record of named fields, which may
hold the states of modes embedded in them; the C-family grammar keeps a value of its own.
-/

namespace LineLexer

/-- What the next token of a C-family text continues. -/
inductive Reading where
  | base
  | blockComment
  | string (delimiter : Char)
deriving DecidableEq, Repr

/-- State of a C-family text. `contexts` holds the closers of the open brackets, innermost first. -/
structure CodeState where
  reading : Reading
  contexts : List Char
  baseIndent : Nat
deriving DecidableEq, Repr

mutual

inductive State where
  | stateless
  | record (fields : Table Field)
  | code (value : CodeState)

/-- The value of a field of a record state. -/
inductive Field where
  | bool (value : Bool)
  | int (value : Int)
  | str (value : String)
  | list (items : List Field)
  | state (value : State)

end

instance : Inhabited State := ⟨.stateless⟩

instance : Inhabited Field := ⟨.bool false⟩

/-- Named fields. -/
abbrev Record := Table Field

namespace Record

/-- A Boolean field; false when there is none. -/
def bool (record : Record) (key : String) : Bool :=
  match record.find? key with
  | some (.bool value) => value
  | _ => false

/-- An integer field; zero when there is none. -/
def int (record : Record) (key : String) : Int :=
  match record.find? key with
  | some (.int value) => value
  | _ => 0

def str? (record : Record) (key : String) : Option String :=
  match record.find? key with
  | some (.str value) => some value
  | _ => none

/-- A list field; empty when there is none. -/
def list (record : Record) (key : String) : List Field :=
  match record.find? key with
  | some (.list items) => items
  | _ => []

def state? (record : Record) (key : String) : Option State :=
  match record.find? key with
  | some (.state value) => some value
  | _ => none

/-- Adds one to an integer field. -/
def increment (record : Record) (key : String) : Record :=
  record.insert key (.int (record.int key + 1))

/-- Appends to a list field, which replaces a field of another kind. -/
def push (record : Record) (key : String) (item : Field) : Record :=
  record.insert key (.list (record.list key ++ [item]))

end Record

namespace State

def isStateless : State → Bool
  | .stateless => true
  | _ => false

def record? : State → Option Record
  | .record fields => some fields
  | _ => none

/-- Changes a record state; others stay. -/
def mapRecord (f : Record → Record) : State → State
  | .record fields => .record (f fields)
  | state => state

end State

/-- The text of a string field. -/
def Field.str? : Field → Option String
  | .str value => some value
  | _ => none

end LineLexer
