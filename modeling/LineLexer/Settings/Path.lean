import LineLexer.Text.Case

/-!
# File paths

The parts of a path that select a mode: the name of the file and its extension.
-/

namespace LineLexer

/-- The parts of a path between slashes, less empty ones and single dots. -/
def pathParts (path : List Char) : List (List Char) :=
  let parts := path.foldr
    (fun c parts ↦
      match parts with
      | [] => if c = '/' then [[], []] else [[c]]
      | first :: others => if c = '/' then [] :: first :: others else (c :: first) :: others)
    [[]]
  parts.filter fun part ↦ !part.isEmpty && part != ['.']

/-- The last part of a path, unless it leads to a parent directory. -/
def fileName? (path : List Char) : Option (List Char) :=
  match (pathParts path).getLast? with
  | some name => if name = ['.', '.'] then none else some name
  | none => none

/-- What follows the last dot of a file name. A dot that begins the name is part of the name. -/
def extension? (path : List Char) : Option (List Char) := do
  let name ← fileName? path
  let reversed := name.reverse
  let stem := (reversed.dropWhile (· != '.')).drop 1
  if stem.isEmpty then none else some (reversed.takeWhile (· != '.')).reverse

end LineLexer
