import LineLexer.CommandLine.Run

/-!
# The program

The command line over the operating system's files.
-/

namespace LineLexer.CommandLine

/-- The system's number of the error "not a directory"; some calls report it negated. -/
def notDirectoryCode : UInt32 := 20

/-- Decodes what was read, and names the cause of a failure. -/
def textOrError (result : Except IO.Error ByteArray) : Except ReadError String :=
  match result with
  | .ok content =>
    match String.fromUTF8? content with
    | some text => .ok text
    | none => .error .notUtf8
  | .error (.noFileOrDirectory _ _ _) => .error .notFound
  | .error (.inappropriateType _ code _) =>
    if code = notDirectoryCode ∨ code = -notDirectoryCode then .error .notDirectory
    else .error .isDirectory
  | .error error => .error (.other (toString error))

/-- The operating system as a host. -/
def systemHost : IO (Host IO) := do
  let home ← IO.getEnv "HOME"
  return {
    readFile := fun path ↦ do
      return textOrError (← (IO.FS.readBinFile path).toBaseIO)
    readInput := do
      return textOrError (← ((← IO.getStdin).readBinToEnd).toBaseIO)
    userSettings := home.map (· ++ "/.lexmode.toml") }

end LineLexer.CommandLine

def main (arguments : List String) : IO UInt32 := do
  let host ← LineLexer.CommandLine.systemHost
  let outcome ← LineLexer.CommandLine.run host arguments
  IO.print (String.ofList outcome.output)
  match outcome.error with
  | some text => IO.eprintln text
  | none => pure ()
  return UInt32.ofNat outcome.code
