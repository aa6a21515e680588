/-!
# Errors

Why a request fails, and the words for it.
-/

namespace LineLexer

/-- Why a file cannot be read. -/
inductive ReadError where
  | notFound
  | isDirectory
  | notDirectory
  | notUtf8
  | other (reason : String)
deriving DecidableEq, Repr

inductive ModeError where
  | unreadable (cause : ReadError)
  | invalidSettings
  | aliasCycle (chain : List String)
  | unknownMode (name : String)
  | usage (text : String)
deriving DecidableEq, Repr

def ReadError.message : ReadError → String
  | .notFound => "No such file or directory (os error 2)"
  | .isDirectory => "Is a directory (os error 21)"
  | .notDirectory => "Not a directory (os error 20)"
  | .notUtf8 => "stream did not contain valid UTF-8"
  | .other reason => reason

def ModeError.message : ModeError → String
  | .unreadable cause => "I/O error: " ++ cause.message
  | .invalidSettings => "Invalid configuration"
  | .aliasCycle chain => "MIME alias cycle: " ++ " -> ".intercalate chain
  | .unknownMode name => "No such mode: " ++ name
  | .usage text => text

end LineLexer
