import SubmissionGrader.Checker
import SubmissionGrader.Checker.Error
import SubmissionGrader.Checker.Evaluation
import SubmissionGrader.Checker.Expression
import SubmissionGrader.Checker.Operator
import SubmissionGrader.Checker.Parse
import SubmissionGrader.Checker.Token
import SubmissionGrader.Checker.Value
import SubmissionGrader.CommandLine.Arguments
import SubmissionGrader.CommandLine.Help
import SubmissionGrader.CommandLine.Session
import SubmissionGrader.CommandLine.Starter
import SubmissionGrader.Config.Basic
import SubmissionGrader.Config.Decoding
import SubmissionGrader.Config.Interpolation
import SubmissionGrader.Config.Loading
import SubmissionGrader.Config.Overrides
import SubmissionGrader.Features.Context
import SubmissionGrader.Features.Encoding
import SubmissionGrader.Features.Extraction
import SubmissionGrader.Feedback.Brackets
import SubmissionGrader.Feedback.Quality
import SubmissionGrader.Feedback.Validation
import SubmissionGrader.Files.Disk
import SubmissionGrader.Files.Path
import SubmissionGrader.Files.Tree
import SubmissionGrader.Grading.Cache
import SubmissionGrader.Grading.Case
import SubmissionGrader.Grading.Digest
import SubmissionGrader.Grading.Grader
import SubmissionGrader.Grading.Result
import SubmissionGrader.Json.Basic
import SubmissionGrader.Json.Quoted
import SubmissionGrader.Json.Raw
import SubmissionGrader.Json.Record
import SubmissionGrader.Json.Sorted
import SubmissionGrader.Main
import SubmissionGrader.Number.Binary64
import SubmissionGrader.Number.Decimal
import SubmissionGrader.Pattern
import SubmissionGrader.Pattern.Expression
import SubmissionGrader.Pattern.Parse
import SubmissionGrader.Pattern.Program
import SubmissionGrader.Pattern.Resolve
import SubmissionGrader.Pattern.Search
import SubmissionGrader.Pattern.Size
import SubmissionGrader.Pattern.Term
import SubmissionGrader.Proofs.Checker.Calls
import SubmissionGrader.Proofs.Checker.Chain
import SubmissionGrader.Proofs.Checker.Comparisons
import SubmissionGrader.Proofs.Checker.Compile
import SubmissionGrader.Proofs.Checker.Dependence
import SubmissionGrader.Proofs.Checker.Grammar
import SubmissionGrader.Proofs.Checker.Height
import SubmissionGrader.Proofs.Checker.Layout
import SubmissionGrader.Proofs.Checker.Lexemes
import SubmissionGrader.Proofs.Checker.Listing
import SubmissionGrader.Proofs.Checker.Lookahead
import SubmissionGrader.Proofs.Checker.Loop
import SubmissionGrader.Proofs.Checker.Names
import SubmissionGrader.Proofs.Checker.NumericText
import SubmissionGrader.Proofs.Checker.Positions
import SubmissionGrader.Proofs.Checker.Primary
import SubmissionGrader.Proofs.Checker.Suffix
import SubmissionGrader.Proofs.Checker.Tokens
import SubmissionGrader.Proofs.Checker.Tower
import SubmissionGrader.Proofs.Features.Coherence
import SubmissionGrader.Proofs.Features.Extraction
import SubmissionGrader.Proofs.Features.Parameters
import SubmissionGrader.Proofs.Features.Rules
import SubmissionGrader.Proofs.Features.Transparency
import SubmissionGrader.Proofs.Feedback.Brackets
import SubmissionGrader.Proofs.Feedback.Scanning
import SubmissionGrader.Proofs.Grading.Accounting
import SubmissionGrader.Proofs.Grading.Calls
import SubmissionGrader.Proofs.Grading.CaseRecords
import SubmissionGrader.Proofs.Grading.Contents
import SubmissionGrader.Proofs.Grading.Interference
import SubmissionGrader.Proofs.Grading.Interleaving
import SubmissionGrader.Proofs.Grading.Ranks
import SubmissionGrader.Proofs.Grading.Recency
import SubmissionGrader.Proofs.Grading.Run
import SubmissionGrader.Proofs.Json.Naturals
import SubmissionGrader.Proofs.Json.Reading
import SubmissionGrader.Proofs.Json.Records
import SubmissionGrader.Proofs.Lists
import SubmissionGrader.Proofs.Number.Binary64
import SubmissionGrader.Proofs.Number.Decimal
import SubmissionGrader.Proofs.Outcome
import SubmissionGrader.Proofs.Runs
import SubmissionGrader.Proofs.Service.Agreement
import SubmissionGrader.Proofs.Service.Attributes
import SubmissionGrader.Proofs.Service.Client
import SubmissionGrader.Proofs.Service.Decoding
import SubmissionGrader.Proofs.Service.Exchange
import SubmissionGrader.Proofs.Service.Host
import SubmissionGrader.Proofs.Service.Offload
import SubmissionGrader.Proofs.Service.Routing
import SubmissionGrader.Proofs.Service.Serving
import SubmissionGrader.Proofs.Service.Stopping
import SubmissionGrader.Proofs.Service.Verdicts
import SubmissionGrader.Proofs.Service.Wire
import SubmissionGrader.Proofs.Suite.Agreement
import SubmissionGrader.Proofs.Suite.Wording
import SubmissionGrader.Proofs.Syntax.Assembly
import SubmissionGrader.Proofs.Syntax.Bindings
import SubmissionGrader.Proofs.Syntax.Lowering
import SubmissionGrader.Proofs.Syntax.Nesting
import SubmissionGrader.Proofs.Syntax.Recursion
import SubmissionGrader.Proofs.Syntax.Targets
import SubmissionGrader.Proofs.Text.Units
import SubmissionGrader.Proofs.Text.Wording
import SubmissionGrader.Report.Basic
import SubmissionGrader.Report.Moment
import SubmissionGrader.Report.TextTable
import SubmissionGrader.Service.Analysis
import SubmissionGrader.Service.Answer
import SubmissionGrader.Service.Client
import SubmissionGrader.Service.Host
import SubmissionGrader.Service.LineServer
import SubmissionGrader.Service.Link
import SubmissionGrader.Service.Offload
import SubmissionGrader.Service.Request
import SubmissionGrader.Service.Response
import SubmissionGrader.Suite.Basic
import SubmissionGrader.Suite.Directory
import SubmissionGrader.Suite.Review
import SubmissionGrader.Syntax.Concrete
import SubmissionGrader.Syntax.EarlyError
import SubmissionGrader.Syntax.Error
import SubmissionGrader.Syntax.FirstError
import SubmissionGrader.Syntax.Grammar
import SubmissionGrader.Syntax.Grammar.Binding
import SubmissionGrader.Syntax.Grammar.Cursor
import SubmissionGrader.Syntax.Grammar.Expression
import SubmissionGrader.Syntax.Grammar.Lexeme
import SubmissionGrader.Syntax.Grammar.Markup
import SubmissionGrader.Syntax.Grammar.Member
import SubmissionGrader.Syntax.Grammar.Rule
import SubmissionGrader.Syntax.Grammar.Semicolon
import SubmissionGrader.Syntax.Grammar.Statement
import SubmissionGrader.Syntax.Grammar.Token
import SubmissionGrader.Syntax.Grammar.TypeExpression
import SubmissionGrader.Syntax.Identifier
import SubmissionGrader.Syntax.Kind
import SubmissionGrader.Syntax.Lowering
import SubmissionGrader.Syntax.Parse
import SubmissionGrader.Syntax.Position
import SubmissionGrader.Syntax.Recovery
import SubmissionGrader.Syntax.Tree
import SubmissionGrader.Syntax.TreeCursor
import SubmissionGrader.Text.Alphanumeric
import SubmissionGrader.Text.Blank
import SubmissionGrader.Text.Columns
import SubmissionGrader.Text.Lines
import SubmissionGrader.Text.Printable
import SubmissionGrader.Text.Quoted
import SubmissionGrader.Text.Ranges
import SubmissionGrader.Text.Search
import SubmissionGrader.Text.Units
import SubmissionGrader.Text.Width
import SubmissionGrader.Toml.Document
import SubmissionGrader.Toml.Encoding
import SubmissionGrader.Toml.Lexical
import SubmissionGrader.Toml.Table
import SubmissionGrader.Unicode.CaseFolding
import SubmissionGrader.Unicode.Category
import SubmissionGrader.Unicode.Letter
import SubmissionGrader.Unicode.Mark
import SubmissionGrader.Unicode.Numeral
import SubmissionGrader.Unicode.Property
import SubmissionGrader.Unicode.Punctuation
import SubmissionGrader.Unicode.Script
import SubmissionGrader.Unicode.Separator
import SubmissionGrader.Unicode.Symbol
import SubmissionGrader.Proofs.Json.Sorting
import SubmissionGrader.Proofs.Report.Consistency
import SubmissionGrader.Proofs.Syntax.ErrorPlaces
import SubmissionGrader.Proofs.Feedback.Balance
import SubmissionGrader.Proofs.Files.Tree
import SubmissionGrader.Proofs.Suite.Directory
import SubmissionGrader.Proofs.Syntax.Identifiers
import SubmissionGrader.Proofs.Syntax.Slices
import SubmissionGrader.Proofs.Config.Interpolation
import SubmissionGrader.Proofs.Syntax.FirstError
import SubmissionGrader.Proofs.Checker.Slicing
import SubmissionGrader.Proofs.Checker.Offsets
