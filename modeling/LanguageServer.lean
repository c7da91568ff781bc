import LanguageServer.Main
import LanguageServer.Sample
import LanguageServer.Proofs.Text.Line
import LanguageServer.Proofs.Document.Splice
import LanguageServer.Proofs.Source.Scrub
import LanguageServer.Proofs.Source.Independence
import LanguageServer.Proofs.File.Directory
import LanguageServer.Proofs.Json.RoundTrip
import LanguageServer.Proofs.Toolchain.State
import LanguageServer.Proofs.Toolchain.Install
import LanguageServer.Proofs.Toolchain.History
import LanguageServer.Proofs.Source.Find
import LanguageServer.Proofs.Source.Import
import LanguageServer.Proofs.Symbols.Precedence
import LanguageServer.Proofs.Source.Resolve
import LanguageServer.Proofs.Symbols.Origin
import LanguageServer.Proofs.Query.Completion
import LanguageServer.Proofs.Query.Privacy
import LanguageServer.Proofs.Document.Insertion
import LanguageServer.Proofs.Source.Brace
import LanguageServer.Proofs.Source.Outline
import LanguageServer.Proofs.Source.Arena
import LanguageServer.Proofs.Source.Header
import LanguageServer.Proofs.Source.Nesting
import LanguageServer.Proofs.File.Parent
import LanguageServer.Proofs.Workspace.History
import LanguageServer.Proofs.Source.CallSite
import LanguageServer.Proofs.Source.ImportLine
import LanguageServer.Proofs.Library.Module
import LanguageServer.Proofs.Query.Signature
import LanguageServer.Proofs.Source.ImportScript
import LanguageServer.Proofs.Source.FunctionHead
import LanguageServer.Proofs.Source.SymbolScan
import LanguageServer.Proofs.Source.SymbolScript
import LanguageServer.Proofs.Source.OutlineLine
import LanguageServer.Proofs.Sample.Analysis
import LanguageServer.Proofs.Query.Unaliased
import LanguageServer.Proofs.Source.CallStack
import LanguageServer.Proofs.Source.OpenLiteral
import LanguageServer.Proofs.Host.Work
import LanguageServer.Proofs.Command.Work
import LanguageServer.Proofs.Toolchain.Answer
import LanguageServer.Proofs.Source.Marks
import LanguageServer.Proofs.Text.Bytes
import LanguageServer.Proofs.Source.Lexer
import LanguageServer.Proofs.Source.Rescrub
import LanguageServer.Proofs.Text.Boundary
import LanguageServer.Proofs.Source.ParameterList
import LanguageServer.Proofs.Query.Slices
import LanguageServer.Proofs.Document.PastEnd
import LanguageServer.Proofs.Source.FunctionLine
import LanguageServer.Proofs.Query.DocumentSymbol
import LanguageServer.Proofs.Source.Closing
import LanguageServer.Proofs.Document.AnyRange
import LanguageServer.Proofs.Document.Offset
import LanguageServer.Proofs.Symbols.Label
import LanguageServer.Proofs.Symbols.Fallback
import LanguageServer.Proofs.Toolchain.Failure
import LanguageServer.Proofs.Toolchain.Ensure
import LanguageServer.Proofs.Source.FunctionName
import LanguageServer.Proofs.Query.Definition
import LanguageServer.Proofs.Toolchain.Race
import LanguageServer.Proofs.Command.Declined
import LanguageServer.Proofs.Command.Picker
import LanguageServer.Proofs.Text.Utf8
import LanguageServer.Proofs.Toolchain.RunLine
import LanguageServer.Proofs.Library.Hover
import LanguageServer.Proofs.Source.Cancellation
import LanguageServer.Proofs.Source.Cut
import LanguageServer.Proofs.Query.Word
import LanguageServer.Proofs.Text.Column
import LanguageServer.Proofs.Source.Documentation
import LanguageServer.Proofs.Source.Attribute
