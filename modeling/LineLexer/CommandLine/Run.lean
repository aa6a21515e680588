import LineLexer.CommandLine.Arguments
import LineLexer.Highlight.Cache
import LineLexer.Terminal.Command
import LineLexer.Terminal.TokenTable
import LineLexer.Text.Lines

/-!
# The command line

Highlights a file, or lists its tokens, or lists the registered modes. The host reads files and
standard input; it may be the operating system or a set of files in memory.
-/

namespace LineLexer.CommandLine

def version : String := "0.1.0"

/-- How a run reads its inputs. -/
structure Host (m : Type → Type) where
  readFile : String → m (Except ReadError String)
  readInput : m (Except ReadError String)
  /-- Where the user's own settings are, if anywhere. -/
  userSettings : Option String

/-- Exit code, standard output and the error that ended the run, if one did. -/
structure Outcome where
  code : Nat
  output : List Char
  error : Option String

def Outcome.done (output : List Char) : Outcome := ⟨0, output, none⟩

/-- A run that ends with an error has no output. -/
def Outcome.failed (error : ModeError) : Outcome := ⟨1, [], some ("Error: " ++ error.message)⟩

def joinLines (lines : List String) : List Char :=
  lines.flatMap fun line ↦ line.toList ++ ['\n']

def usageText : List Char :=
  joinLines
    ["lexmode " ++ version ++ " - line tokenizer and highlighter",
      "",
      "Usage: lexmode [OPTIONS] FILE",
      "",
      "Options:",
      "  -m, --mode SPEC       Mode name, MIME type or inline TOML table",
      "  -t, --tab-width N     Tab width for column computations",
      "  -c, --config PATH     Config file (default ~/.lexmode.toml)",
      "      --tokens          Print one row per token instead of colored text",
      "      --list            List registered modes and MIME types",
      "  -v, --verbose         More logging (repeat for more)",
      "  -h, --help            Show this help message",
      "  -V, --version         Show version information",
      "",
      "FILE may be - to read standard input.",
      "LEXMODE_LOG overrides the log filter, e.g. LEXMODE_LOG=lexmode=debug"]

/-- The registered modes and MIME types. -/
def listing (registry : Registry) : List Char :=
  joinLines
    (["Modes:"] ++ registry.modes.keys.map (fun name ↦
        "  " ++ name ++ (if registry.defaultMode = some name then " (default)" else ""))
      ++ ["", "MIME types:"] ++ registry.mimes.keys.map ("  " ++ ·))

/-- The lines of a text; an empty last line is not one of them. -/
def documentLines (text : List Char) : List Line :=
  let lines := splitLines text
  if lines.getLast? = some [] then lines.dropLast else lines

/-- The tokens of every line as a table. -/
def tokenReport (mode : Mode) (tabSize : Nat) (lines : List Line) :
    Except BadSlice (List Char) := do
  let found ← tokenizeLines mode tabSize (mode.start 0) lines
  let rows ← ((lines.zip found).zipIdx).mapM fun ((line, tokens, _), number) ↦
    tokenTable number line tokens
  return rows.flatten

/-- The drawing commands of every line. -/
def paintReport (mode : Mode) (tabSize : Nat) (lines : List Line) :
    Except BadSlice (List Command) := do
  let (spans, _) ← (HighlightCache.ofMode mode tabSize).highlightDocument lines
  let painted ← (lines.zip spans).mapM fun (line, spans) ↦ paintLine line spans
  return painted.flatten

/-- The mode for a file: the one asked for, which must exist, or one by the file's extension, or the
default, or plain text. -/
def chooseMode (arguments : Arguments) (settings : Settings) (registry : Registry)
    (options : ModeOptions) (file : String) : Except ModeError Mode :=
  match arguments.mode with
  | some spec => registry.getMode? options spec
  | none =>
    let spec := ((settings.specForPath? file.toList).or settings.defaultMode).getD
      (.name plainTextMime)
    .ok (registry.getMode options spec)

/-- Highlights the text of a file. -/
def highlightText (arguments : Arguments) (settings : Settings) (registry : Registry)
    (file text : String) : Outcome :=
  let options := match arguments.tabWidth with
    | some width => { settings.modeOptions with tabSize := Settings.clampWidth width }
    | none => settings.modeOptions
  match chooseMode arguments settings registry options file with
  | .error error => .failed error
  | .ok mode =>
    let lines := documentLines text.toList
    let report :=
      if arguments.tokens then tokenReport mode options.tabSize lines
      else (paintReport mode options.tabSize lines).map encodeCommands
    match report with
    | .ok output => .done output
    | .error _ => ⟨101, [], none⟩

/-- Settings from a file; a file that does not exist sets nothing. -/
def settingsOf : Except ReadError String → Except ModeError Settings
  | .ok text => Settings.ofText text.toList
  | .error .notFound => .ok {}
  | .error cause => .error (.unreadable cause)

variable {m : Type → Type} [Monad m]

/-- The settings asked for, or else those of the user, which are passed over if they are invalid. -/
def loadSettings (host : Host m) (path : Option String) : m (Except ModeError Settings) := do
  match path, host.userSettings with
  | some path, _ => return settingsOf (← host.readFile path)
  | none, some path =>
    match settingsOf (← host.readFile path) with
    | .ok settings => return .ok settings
    | .error _ => return .ok {}
  | none, none => return .ok {}

/-- Runs the program on its arguments. -/
def run (host : Host m) (arguments : List String) : m Outcome := do
  match parse arguments with
  | .error error => return .failed error
  | .ok .help => return .done usageText
  | .ok .version => return .done (joinLines ["lexmode " ++ version])
  | .ok (.run arguments) =>
    match ← loadSettings host arguments.settings with
    | .error error => return .failed error
    | .ok settings =>
      let registry := settings.apply .bundled
      if arguments.list then
        return .done (listing registry)
      match arguments.file with
      | none => return .failed (.usage "no input file (try --help)")
      | some file =>
        match ← (if file = "-" then host.readInput else host.readFile file) with
        | .error cause => return .failed (.unreadable cause)
        | .ok text => return highlightText arguments settings registry file text

end LineLexer.CommandLine
