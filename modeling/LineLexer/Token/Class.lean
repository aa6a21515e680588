/-!
# Token classes

What a token is, as far as its colour depends on it. A token without a class is plain text.
-/

namespace LineLexer

inductive TokenClass where
  | comment
  | string
  | char
  | number
  | keyword
  | typeName
  | function
  | identifier
  | operator
  | punctuation
  | bracket
  | preprocessor
  | macroName
  | atom
  | tag
  | attributeName
  | header
  | lifetime
  | marker
  | inserted
  | deleted
  | error
deriving DecidableEq, Repr

namespace TokenClass

def all : List TokenClass :=
  [comment, string, char, number, keyword, typeName, function, identifier, operator, punctuation,
    bracket, preprocessor, macroName, atom, tag, attributeName, header, lifetime, marker, inserted,
    deleted, error]

def name : TokenClass → String
  | comment => "comment"
  | string => "string"
  | char => "char"
  | number => "number"
  | keyword => "keyword"
  | typeName => "type"
  | function => "function"
  | identifier => "variable"
  | operator => "operator"
  | punctuation => "punctuation"
  | bracket => "bracket"
  | preprocessor => "preprocessor"
  | macroName => "macro"
  | atom => "atom"
  | tag => "tag"
  | attributeName => "attribute"
  | header => "header"
  | lifetime => "lifetime"
  | marker => "meta"
  | inserted => "inserted"
  | deleted => "deleted"
  | error => "error"

/-- The class with a given name. -/
def ofName? (name : String) : Option TokenClass :=
  all.find? (·.name == name)

end TokenClass

end LineLexer
