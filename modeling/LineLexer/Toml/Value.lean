/-!
# TOML documents

The values of a TOML document, and the rules by which headers and dotted keys build its tables: a
table has one place that defines it, and only the place that began a table may add to it.
-/

namespace LineLexer.Toml

/-- How a table came to be: in braces, by a header, as the parent of another header's table, or by
dotted keys. -/
inductive Origin where
  | braces
  | header
  | parent
  | dotted
deriving DecidableEq, Repr

inductive Value where
  | str (value : String)
  | int (value : Int)
  | float
  | bool (value : Bool)
  | datetime (text : String)
  | array (items : List Value)
  | table (origin : Origin) (entries : List (String × Value))
  | tables (items : List (List (String × Value)))

/-- The entries of a table. -/
abbrev Entries := List (String × Value)

namespace Entries

/-- Changes the value of a key; a key that is not there is added at the end. -/
def update (key : String) (change : Option Value → Option Value) : Entries → Option Entries
  | [] => do
    let value ← change none
    return [(key, value)]
  | (other, value) :: rest =>
    if key = other then do
      let changed ← change (some value)
      return (key, changed) :: rest
    else do
      let rest ← update key change rest
      return (other, value) :: rest

/-- Changes the last of a list of tables. -/
def updateLast (change : Entries → Option Entries) : List Entries → Option (List Entries)
  | [] => none
  | [last] => do
    let changed ← change last
    return [changed]
  | first :: rest => do
    let rest ← updateLast change rest
    return first :: rest

/-- Adds a value that is not there yet. -/
def define (key : String) (value : Value) : Entries → Option Entries :=
  update key fun
    | none => some value
    | some _ => none

/-- Adds a value under a dotted key. The tables on its way are made by dotted keys alone. -/
def defineDotted (key : String) (value : Value) : List String → Entries → Option Entries
  | [], entries => define key value entries
  | step :: path, entries =>
    update step (fun
      | none => do
        let inner ← defineDotted key value path []
        return .table .dotted inner
      | some (.table .dotted inner) => do
        let inner ← defineDotted key value path inner
        return .table .dotted inner
      | some (.table .parent inner) =>
        if path.isEmpty then none
        else do
          let inner ← defineDotted key value path inner
          return .table .parent inner
      | some (.tables items) =>
        if path.isEmpty then none
        else do
          let items ← updateLast (defineDotted key value path) items
          return .tables items
      | some _ => none) entries

/-- Changes the value under the path of a header; in a list of tables it goes on in the last. -/
def updateUnder (key : String) (change : Option Value → Option Value) :
    List String → Entries → Option Entries
  | [], entries => update key change entries
  | step :: path, entries =>
    update step (fun
      | none => do
        let inner ← updateUnder key change path []
        return .table .parent inner
      | some (.table .braces _) => none
      | some (.table origin inner) => do
        let inner ← updateUnder key change path inner
        return .table origin inner
      | some (.tables items) => do
        let items ← updateLast (updateUnder key change path) items
        return .tables items
      | some _ => none) entries

/-- Adds the pairs of a section to the entries of its table. -/
def definePairs (pairs : List (List String × String × Value)) (entries : Entries) :
    Option Entries :=
  pairs.foldlM (fun entries (path, key, value) ↦ defineDotted key value path entries) entries

/-- Adds the table of a header, which may so far be only the parent of others. -/
def defineTable (path : List String) (key : String) (pairs : List (List String × String × Value))
    (entries : Entries) : Option Entries :=
  updateUnder key (fun
    | none => do
      let inner ← definePairs pairs []
      return .table .header inner
    | some (.table .parent inner) => do
      let inner ← definePairs pairs inner
      return .table .header inner
    | some _ => none) path entries

/-- Adds one more table to the list of tables of a double header. -/
def defineListed (path : List String) (key : String) (pairs : List (List String × String × Value))
    (entries : Entries) : Option Entries :=
  updateUnder key (fun
    | none => do
      let inner ← definePairs pairs []
      return .tables [inner]
    | some (.tables items) => do
      let inner ← definePairs pairs []
      return .tables (items ++ [inner])
    | some _ => none) path entries

end Entries

end LineLexer.Toml
