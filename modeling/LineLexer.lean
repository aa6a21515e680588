import LineLexer.CommandLine.Arguments
import LineLexer.CommandLine.Files
import LineLexer.CommandLine.Run
import LineLexer.Describe
import LineLexer.Error
import LineLexer.Grammar.Bundled
import LineLexer.Grammar.CFamily
import LineLexer.Grammar.Html
import LineLexer.Grammar.Patch
import LineLexer.Grammar.Toml
import LineLexer.Grammar.Xml
import LineLexer.Highlight.Cache
import LineLexer.Highlight.Tokens
import LineLexer.Main
import LineLexer.Mode.Basic
import LineLexer.Mode.Extension
import LineLexer.Mode.Property
import LineLexer.Mode.Sample
import LineLexer.Pattern.Basic
import LineLexer.Pattern.Catalog
import LineLexer.Proofs.CommandLine.Operands
import LineLexer.Proofs.CommandLine.Printed
import LineLexer.Proofs.Grammar.Brackets
import LineLexer.Proofs.Grammar.CFamily
import LineLexer.Proofs.Grammar.Comments
import LineLexer.Proofs.Grammar.Directives
import LineLexer.Proofs.Grammar.Html
import LineLexer.Proofs.Grammar.HtmlShape
import LineLexer.Proofs.Grammar.Operators
import LineLexer.Proofs.Grammar.Patch
import LineLexer.Proofs.Grammar.Script
import LineLexer.Proofs.Grammar.ScriptTag
import LineLexer.Proofs.Grammar.Strings
import LineLexer.Proofs.Grammar.Tags
import LineLexer.Proofs.Grammar.Toml
import LineLexer.Proofs.Grammar.TomlCalls
import LineLexer.Proofs.Grammar.TomlEntry
import LineLexer.Proofs.Grammar.TomlRecord
import LineLexer.Proofs.Grammar.TomlScalar
import LineLexer.Proofs.Grammar.TomlSeparator
import LineLexer.Proofs.Grammar.TomlShape
import LineLexer.Proofs.Grammar.TomlValue
import LineLexer.Proofs.Grammar.Xml
import LineLexer.Proofs.Grammar.XmlCalls
import LineLexer.Proofs.Grammar.XmlForest
import LineLexer.Proofs.Grammar.XmlParts
import LineLexer.Proofs.Grammar.XmlShape
import LineLexer.Proofs.Grammar.XmlTrees
import LineLexer.Proofs.Highlight.Calls
import LineLexer.Proofs.Highlight.Diff
import LineLexer.Proofs.Highlight.Document
import LineLexer.Proofs.Highlight.Incremental
import LineLexer.Proofs.Highlight.Partition
import LineLexer.Proofs.Highlight.Request
import LineLexer.Proofs.Highlight.RunLength
import LineLexer.Proofs.Highlight.Steady
import LineLexer.Proofs.Highlight.Threaded
import LineLexer.Proofs.Highlight.Visited
import LineLexer.Proofs.Mode.Extension
import LineLexer.Proofs.Mode.Walk
import LineLexer.Proofs.Outcome
import LineLexer.Proofs.Pattern.Consumes
import LineLexer.Proofs.Pattern.Greedy
import LineLexer.Proofs.Registry.Bundled
import LineLexer.Proofs.Registry.Embedding
import LineLexer.Proofs.Registry.Fallback
import LineLexer.Proofs.Registry.HelperHistory
import LineLexer.Proofs.Registry.Innermost
import LineLexer.Proofs.Registry.Layers
import LineLexer.Proofs.Registry.Precedence
import LineLexer.Proofs.Registry.Progress
import LineLexer.Proofs.Registry.Resolution
import LineLexer.Proofs.Registry.Script
import LineLexer.Proofs.Registry.Shapes
import LineLexer.Proofs.Scan.BackUp
import LineLexer.Proofs.Scan.Boundaries
import LineLexer.Proofs.Scan.Column
import LineLexer.Proofs.Scan.Ensures
import LineLexer.Proofs.Scan.Follows
import LineLexer.Proofs.Scan.Forward
import LineLexer.Proofs.Scan.Indentation
import LineLexer.Proofs.Scan.Placed
import LineLexer.Proofs.Scan.Reads
import LineLexer.Proofs.Scan.Unwind
import LineLexer.Proofs.Table
import LineLexer.Proofs.Terminal.Painting
import LineLexer.Proofs.Terminal.Styling
import LineLexer.Proofs.Text.Boundary
import LineLexer.Proofs.Text.Column
import LineLexer.Proofs.Text.LineBytes
import LineLexer.Proofs.Text.Lines
import LineLexer.Proofs.Text.Separators
import LineLexer.Registry.Basic
import LineLexer.Registry.Helper
import LineLexer.Registry.Hook
import LineLexer.Registry.Sample
import LineLexer.Scan.Cursor
import LineLexer.Scan.Program
import LineLexer.Scan.Unwind
import LineLexer.Settings.Basic
import LineLexer.Settings.Path
import LineLexer.State.Basic
import LineLexer.Table
import LineLexer.Terminal.Command
import LineLexer.Terminal.TokenTable
import LineLexer.Text.Case
import LineLexer.Text.CodePoints
import LineLexer.Text.Column
import LineLexer.Text.Letter
import LineLexer.Text.Line
import LineLexer.Text.Lines
import LineLexer.Text.Number
import LineLexer.Text.Quoted
import LineLexer.Text.Space
import LineLexer.Text.Width
import LineLexer.Text.Word
import LineLexer.Token.Class
import LineLexer.Token.Style
import LineLexer.Toml.Reader
import LineLexer.Toml.Scalar
import LineLexer.Toml.Value
