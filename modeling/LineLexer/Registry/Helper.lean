import LineLexer.Mode.Basic

/-!
# Helpers

Values that grammars and hosts publish for modes, by category: under a name, or for every mode that
a predicate accepts. Every registration makes a new helper, even of an equal value, so a helper has
an identity beside its value.
-/

namespace LineLexer

/-- The comment delimiters of a grammar. -/
structure CommentSyntax where
  line : Option String := none
  block : Option (String × String) := none
deriving DecidableEq, Repr

/-- The category of comment delimiters. -/
def commentCategory : String := "comment"

inductive HelperValue where
  | text (value : String)
  | number (value : Int)
  | comment (syn : CommentSyntax)
deriving DecidableEq, Repr

/-- A registered value; no two registrations have the same identity. -/
structure Helper where
  id : Nat
  value : HelperValue
deriving DecidableEq, Repr

def HelperValue.text? : HelperValue → Option String
  | .text value => some value
  | _ => none

/-- A helper for the modes that a predicate accepts in a host's context. -/
structure GlobalHelper where
  applies : Mode → String → Bool
  helper : Helper

structure HelperCategory where
  byName : Table Helper := {}
  global : List GlobalHelper := []

structure HelperRegistry where
  categories : Table HelperCategory := {}
  nextId : Nat := 0

namespace HelperRegistry

/-- Changes a category, which is empty before its first helper. -/
def updateCategory (registry : HelperRegistry) (category : String)
    (change : HelperCategory → HelperCategory) : HelperRegistry :=
  { registry with
    categories := registry.categories.insert category
      (change ((registry.categories.find? category).getD {})) }

/-- Registers a value under a name. -/
def register (registry : HelperRegistry) (category name : String) (value : HelperValue) :
    HelperRegistry :=
  { registry.updateCategory category fun found ↦
      { found with byName := found.byName.insert name ⟨registry.nextId, value⟩ } with
    nextId := registry.nextId + 1 }

/-- Registers a value under a name and for every mode that `applies` accepts. -/
def registerGlobal (registry : HelperRegistry) (category name : String)
    (applies : Mode → String → Bool) (value : HelperValue) : HelperRegistry :=
  let helper : Helper := ⟨registry.nextId, value⟩
  { registry.updateCategory category fun found ↦
      { byName := found.byName.insert name helper
        global := found.global ++ [⟨applies, helper⟩] } with
    nextId := registry.nextId + 1 }

/-- The helper registered under a name. -/
def find? (registry : HelperRegistry) (category name : String) : Option Helper :=
  (registry.categories.find? category).bind (·.byName.find? name)

/-- The global helpers that apply to a mode, in the order of registration. -/
def globalMatches (registry : HelperRegistry) (category : String) (mode : Mode)
    (context : String) : List Helper :=
  match registry.categories.find? category with
  | none => []
  | some found =>
    (found.global.filter fun global ↦ global.applies mode context).map GlobalHelper.helper

/-- The helpers for a mode: the one under its helper type (or its name), then the global ones that
apply, each once. -/
def helpersFor (registry : HelperRegistry) (category : String) (mode : Mode)
    (context : String) : List Helper :=
  let named := (registry.find? category (mode.helperType.getD mode.name)).toList
  (registry.globalMatches category mode context).foldl
    (fun found helper ↦
      if found.any (·.id == helper.id) then found else found ++ [helper])
    named

end HelperRegistry

end LineLexer
