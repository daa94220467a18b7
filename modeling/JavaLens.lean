import JavaLens.CommandLine
import JavaLens.Completion
import JavaLens.Decimal
import JavaLens.Decimal.Binary
import JavaLens.Documents
import JavaLens.Editor.Diagnostic
import JavaLens.Editor.Range
import JavaLens.Editor.Symbol
import JavaLens.Grammar.CompilationUnit
import JavaLens.Grammar.Expression
import JavaLens.Grammar.Member
import JavaLens.Grammar.Recovery
import JavaLens.Grammar.State
import JavaLens.Grammar.Statement
import JavaLens.Grammar.Type
import JavaLens.Import
import JavaLens.Json
import JavaLens.Json.Reader
import JavaLens.Json.Writer
import JavaLens.Keyword
import JavaLens.Lexeme
import JavaLens.Lexeme.Recognizer
import JavaLens.LogFilter
import JavaLens.Main
import JavaLens.Navigation
import JavaLens.Outline
import JavaLens.Position
import JavaLens.Problem
import JavaLens.Rpc.Call
import JavaLens.Rpc.Capabilities
import JavaLens.Rpc.Endpoint
import JavaLens.Rpc.Frame
import JavaLens.Rpc.Method
import JavaLens.Rpc.Params
import JavaLens.Rpc.Shape
import JavaLens.Session
import JavaLens.Settings
import JavaLens.Settings.Decode
import JavaLens.Settings.KeyPath
import JavaLens.Settings.Layer
import JavaLens.Settings.Setting
import JavaLens.Source
import JavaLens.Span
import JavaLens.Startup
import JavaLens.SyntaxTree
import JavaLens.Text.Alphanumeric
import JavaLens.Text.Blank
import JavaLens.Text.Case
import JavaLens.Text.LowerCase
import JavaLens.Text.Quoted
import JavaLens.Text.Terminal
import JavaLens.Text.Unseen
import JavaLens.Token
import JavaLens.Tokenization
import JavaLens.Toml
import JavaLens.Toml.Document
import JavaLens.Toml.Moment
import JavaLens.Toml.Number
import JavaLens.Toml.Table
import JavaLens.Toml.Text
import JavaLens.Uri
import JavaLens.Uri.Host
import JavaLens.Proofs.Span
import JavaLens.Proofs.Lexeme
import JavaLens.Proofs.Tokenization
import JavaLens.Proofs.Tokenization.Words
import JavaLens.Proofs.Tokenization.Lines
import JavaLens.Proofs.Position.Lines
import JavaLens.Proofs.Position.RoundTrip
import JavaLens.Proofs.Grammar.Layout
import JavaLens.Proofs.Grammar.Reading
import JavaLens.Proofs.Grammar.Brackets
import JavaLens.Proofs.Grammar.Type
import JavaLens.Proofs.Grammar.Expression
import JavaLens.Proofs.Grammar.Member
import JavaLens.Proofs.Grammar.Statement
import JavaLens.Proofs.Grammar.CompilationUnit
import JavaLens.Proofs.Grammar.Progress
import JavaLens.Proofs.Grammar.Termination
import JavaLens.Proofs.Grammar.Recording
import JavaLens.Proofs.Grammar.Tandem
import JavaLens.Proofs.Grammar.Mirrors
import JavaLens.Proofs.Grammar.Mirrors.Type
import JavaLens.Proofs.Grammar.Mirrors.Expression
import JavaLens.Proofs.Grammar.Mirrors.Member
import JavaLens.Proofs.Grammar.Mirrors.Trial
import JavaLens.Proofs.Grammar.Mirrors.Statement
import JavaLens.Proofs.Grammar.Mirrors.CompilationUnit
import JavaLens.Proofs.Grammar.Atomicity
import JavaLens.Proofs.SyntaxTree.Mentions
import JavaLens.Proofs.SyntaxTree.Spans
import JavaLens.Proofs.SyntaxTree.Nesting
import JavaLens.Proofs.SyntaxTree.Names
import JavaLens.Proofs.SyntaxTree.Braces
import JavaLens.Proofs.SyntaxTree.MissingBraces
import JavaLens.Proofs.SyntaxTree.Order
import JavaLens.Proofs.SyntaxTree.Formatting
import JavaLens.Proofs.SyntaxTree.Continuation
import JavaLens.Proofs.Program.Syntax
import JavaLens.Proofs.Program.Types
import JavaLens.Proofs.Program.Members
import JavaLens.Proofs.Program.Statements
import JavaLens.Proofs.Program.Recovery
import JavaLens.Proofs.Editor.Ranges
import JavaLens.Proofs.Editor.Outline
import JavaLens.Proofs.Session.Publications
import JavaLens.Proofs.Session.Isolation
import JavaLens.Proofs.Settings.Key
import JavaLens.Proofs.Settings.Layering
import JavaLens.Proofs.Outline
import JavaLens.Proofs.Navigation
import JavaLens.Proofs.Lexeme.Measure
import JavaLens.Proofs.Lexeme.LongestMatch
import JavaLens.Proofs.Tokenization.Patterns
import JavaLens.Proofs.Tokenization.Coverage
import JavaLens.Proofs.Grammar.Header
import JavaLens.Proofs.SyntaxTree.Imports
import JavaLens.Proofs.Tokenization.Rescan
import JavaLens.Proofs.Tokenization.TextBlock
import JavaLens.Proofs.Position.Order
import JavaLens.Proofs.Position.Walk
import JavaLens.Proofs.Grammar.Matching
import JavaLens.Proofs.SyntaxTree.TooDeep
