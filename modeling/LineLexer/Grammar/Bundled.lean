import LineLexer.Grammar.CFamily
import LineLexer.Grammar.Html
import LineLexer.Grammar.Patch
import LineLexer.Grammar.Toml
import LineLexer.Grammar.Xml

/-!
# The bundled grammars

All grammars of the library in one registry, and the MIME types of common file extensions.
-/

namespace LineLexer

/-- The registry of all bundled grammars. The C family comes first and so is the default. -/
def Registry.bundled : Registry :=
  let registry := CFamily.register .minimal
  let registry := TomlGrammar.register registry
  let registry := XmlGrammar.register registry
  let registry := HtmlGrammar.register registry
  PatchGrammar.register registry

/-- File extensions and their MIME types. -/
def extensionMimes : List (String × String) :=
  [("c", "text/x-csrc"), ("h", "text/x-csrc"), ("cc", "text/x-c++src"), ("cpp", "text/x-c++src"),
    ("cxx", "text/x-c++src"), ("hpp", "text/x-c++src"), ("rs", "text/x-rustsrc"),
    ("js", "text/javascript"), ("mjs", "text/javascript"), ("toml", "text/x-toml"),
    ("xml", "application/xml"), ("svg", "image/svg+xml"), ("html", "text/html"),
    ("htm", "text/html"), ("diff", "text/x-diff"), ("patch", "text/x-diff")]

/-- The MIME type of a file extension in any case of its ASCII letters. -/
def mimeForExtension? (extension : String) : Option String :=
  extensionMimes.lookup (String.ofList (extension.toList.map asciiLower))

end LineLexer
