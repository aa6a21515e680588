import LineLexer.Settings.Basic

/-!
# Command-line arguments

Arguments are read from left to right. A request for help or the version ends the reading at once,
as does the first error.
-/

namespace LineLexer.CommandLine

/-- The arguments read so far. The verbosity is a byte, and wraps around. -/
structure Arguments where
  mode : Option Spec := none
  tabWidth : Option Nat := none
  tokens : Bool := false
  list : Bool := false
  settings : Option String := none
  verbosity : UInt8 := 0
  file : Option String := none

/-- What the arguments ask for. -/
inductive Request where
  | help
  | version
  | run (arguments : Arguments)

/-- A mode on the command line is a name, or a table in braces. -/
def modeArgument (value : String) : Except ModeError Spec :=
  if (trimStart value.toList).head? = some '\x7b' then
    match (Toml.read? ("mode = ".toList ++ value.toList)).bind (·.lookup "mode") with
    | some found =>
      match Settings.spec? found with
      | some spec => .ok spec
      | none => .error .invalidSettings
    | none => .error .invalidSettings
  else .ok (.name value)

/-- A number below 2⁶⁴ in decimal digits, with or without a plus sign. -/
def natural? (value : String) : Option Nat :=
  let digits := match value.toList with
    | '+' :: digits => digits
    | digits => digits
  if digits.isEmpty || !digits.all Char.isDigit then none
  else
    let number := Toml.digitsValue 10 digits
    if number < UInt64.size then some number else none

def tabWidthArgument (value : String) : Except ModeError Nat :=
  match natural? value with
  | some width => .ok width
  | none => .error (.usage ("invalid tab width: " ++ value))

def missingValue (flag : String) : ModeError := .usage (flag ++ " requires a value")

/-- Reads arguments on top of those read before. -/
def parseFrom (arguments : Arguments) : List String → Except ModeError Request
  | [] => .ok (.run arguments)
  | argument :: rest =>
    if ["--help", "-h"].contains argument then .ok .help
    else if ["--version", "-V"].contains argument then .ok .version
    else if ["--mode", "-m"].contains argument then
      match rest with
      | [] => .error (missingValue argument)
      | value :: rest => do
        let spec ← modeArgument value
        parseFrom { arguments with mode := some spec } rest
    else if ["--tab-width", "-t"].contains argument then
      match rest with
      | [] => .error (missingValue argument)
      | value :: rest => do
        let width ← tabWidthArgument value
        parseFrom { arguments with tabWidth := some width } rest
    else if ["--config", "-c"].contains argument then
      match rest with
      | [] => .error (missingValue argument)
      | value :: rest => parseFrom { arguments with settings := some value } rest
    else if argument = "--tokens" then parseFrom { arguments with tokens := true } rest
    else if argument = "--list" then parseFrom { arguments with list := true } rest
    else if ["-v", "--verbose"].contains argument then
      parseFrom { arguments with verbosity := arguments.verbosity + 1 } rest
    else if argument = "-vv" then
      parseFrom { arguments with verbosity := arguments.verbosity + 2 } rest
    else if argument = "-" then parseFrom { arguments with file := some "-" } rest
    else if argument.toList.head? = some '-' then
      .error (.usage ("unknown option: " ++ argument))
    else if arguments.file.isSome then
      .error (.usage ("unexpected argument: " ++ argument))
    else parseFrom { arguments with file := some argument } rest

def parse (arguments : List String) : Except ModeError Request := parseFrom {} arguments

end LineLexer.CommandLine
