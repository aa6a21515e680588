import LineLexer.Text.Space

/-!
# Columns

A tab moves to the next multiple of the tab size, every other character moves one column on. Columns
are machine words. A sum that a word does not hold wraps around, or is a fault where overflow is
checked: the functions that end in a question mark count with the check, and find nothing in place
of a sum that is too large.
-/

namespace LineLexer

/-- How many values a word of 64 bits has. -/
def wordSize : Nat := UInt64.size

/-- How many columns a character takes, with tab stops every `tabSize` columns. -/
def columnWidth (tabSize column : Nat) (c : Char) : Nat :=
  if c = '\t' then tabSize - column % tabSize else 1

/-- The column after a character. -/
def nextColumn (tabSize column : Nat) (c : Char) : Nat :=
  (column + columnWidth tabSize column c) % wordSize

def nextColumn? (tabSize column : Nat) (c : Char) : Option Nat :=
  let sum := column + columnWidth tabSize column c
  if sum < wordSize then some sum else none

/-- The column after a text that begins at `column`; a tab size of zero counts as one. -/
def columnAfter (tabSize column : Nat) (text : List Char) : Nat :=
  text.foldl (nextColumn (max tabSize 1)) column

def columnAfter? (tabSize column : Nat) (text : List Char) : Option Nat :=
  text.foldlM (nextColumn? (max tabSize 1)) column

/-- The text that is counted from byte offset `first` to byte offset `last`. Without `last` it ends
before the first character that is no blank. A range that is empty or off a boundary holds nothing. -/
def countedText (text : List Char) (last : Option Nat) (first : Nat) : List Char :=
  let last := min (last.getD (firstNonSpace text)) (byteLength text)
  if last ≤ first then [] else (slice? text first last).getD []

/-- The column at byte offset `last`, resuming from the known column of byte offset `first`. -/
def countColumnFrom (text : List Char) (last : Option Nat) (tabSize first column : Nat) : Nat :=
  columnAfter tabSize column (countedText text last first)

def countColumnFrom? (text : List Char) (last : Option Nat) (tabSize first column : Nat) :
    Option Nat :=
  columnAfter? tabSize column (countedText text last first)

/-- The column at byte offset `last`, or the indentation when there is none. -/
def countColumn (text : List Char) (last : Option Nat) (tabSize : Nat) : Nat :=
  countColumnFrom text last tabSize 0 0

def countColumn? (text : List Char) (last : Option Nat) (tabSize : Nat) : Option Nat :=
  countColumnFrom? text last tabSize 0 0

end LineLexer
