import LineLexer.CommandLine.Run

/-!
# Files in memory

A host whose files are given by name: a directory with files and empty directories in it.
-/

namespace LineLexer.CommandLine

inductive Entry where
  | file (content : ByteArray)
  | directory

/-- The entries of a directory by their paths in it. -/
abbrev Files := List (String × Entry)

/-- The text of a file's content. -/
def decode (content : ByteArray) : Except ReadError String :=
  match String.fromUTF8? content with
  | some text => .ok text
  | none => .error .notUtf8

/-- What is at a place under the directory; the directories on the way to a file exist with it. -/
def Files.at? (files : Files) (place : List (List Char)) : Option Entry :=
  if place.isEmpty then some .directory
  else
    match files.find? fun (path, _) ↦ pathParts path.toList == place with
    | some (_, entry) => some entry
    | none =>
      if files.any fun (path, _) ↦ place.isPrefixOf (pathParts path.toList) then some .directory
      else none

/-- Follows the parts of a path from a place, which has to be a directory as long as parts are
left. Nothing is known of what lies outside, but that it holds the directory. -/
def Files.follow (files : Files) (place : List (List Char)) :
    List (List Char) → Except ReadError (List (List Char))
  | [] => .ok place
  | part :: parts =>
    match files.at? place with
    | some .directory =>
      if part != ['.', '.'] then files.follow (place ++ [part]) parts
      else if place.isEmpty then
        .error (if parts.all (· == ['.', '.']) then .isDirectory else .notFound)
      else files.follow place.dropLast parts
    | some (.file _) => .error .notDirectory
    | none => .error .notFound

/-- Reads a file by a path relative to the directory. -/
def Files.read (files : Files) (path : String) : Except ReadError String := do
  let text := path.toList
  let parts := pathParts text
  if text.isEmpty || (text.head? == some '/' && !parts.isEmpty) then
    throw .notFound
  match files.at? (← files.follow [] parts) with
  | some .directory => throw .isDirectory
  | some (.file content) =>
    if ['/'].isSuffixOf text || ['/', '.'].isSuffixOf text then throw .notDirectory
    decode content
  | none => throw .notFound

/-- A host over files in memory; the user's settings are among them. -/
def Files.host (files : Files) (input : String) : Host Id where
  readFile path := files.read path
  readInput := .ok input
  userSettings := some ".lexmode.toml"

end LineLexer.CommandLine
