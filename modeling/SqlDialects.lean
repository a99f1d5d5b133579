import SqlDialects.CommandLine.Arguments
import SqlDialects.CommandLine.Display
import SqlDialects.CommandLine.Run
import SqlDialects.Console.Emoji
import SqlDialects.Console.EmojiTable
import SqlDialects.Console.Handler
import SqlDialects.Console.Markup
import SqlDialects.Console.Style
import SqlDialects.Console.Styled
import SqlDialects.Console.Table
import SqlDialects.Console.Wrap
import SqlDialects.Decimal.Binary
import SqlDialects.Decimal.Notation
import SqlDialects.Decimal.Shortest
import SqlDialects.Diagnostics.Basic
import SqlDialects.Diagnostics.Reader
import SqlDialects.Dialect.Basic
import SqlDialects.Dialect.Name
import SqlDialects.Dialect.Table
import SqlDialects.Engine.Basic
import SqlDialects.Engine.Script
import SqlDialects.Engine.Scripted
import SqlDialects.Failure.Basic
import SqlDialects.Failure.Class
import SqlDialects.Failure.Registry
import SqlDialects.Json.Basic
import SqlDialects.Json.Printer
import SqlDialects.Json.Reader
import SqlDialects.Library.Basic
import SqlDialects.Library.Candidates
import SqlDialects.Library.Engine
import SqlDialects.Library.Scripted
import SqlDialects.Log.Journal
import SqlDialects.Log.Level
import SqlDialects.Log.Record
import SqlDialects.Log.Template
import SqlDialects.Log.Timestamp
import SqlDialects.Main
import SqlDialects.Proofs.CommandLine.Acceptance
import SqlDialects.Proofs.CommandLine.Commands
import SqlDialects.Proofs.CommandLine.Diagnostics
import SqlDialects.Proofs.CommandLine.Flags
import SqlDialects.Proofs.CommandLine.GivenDialect
import SqlDialects.Proofs.CommandLine.Listing
import SqlDialects.Proofs.CommandLine.Messages
import SqlDialects.Proofs.CommandLine.Outcome
import SqlDialects.Proofs.CommandLine.Pipeline
import SqlDialects.Proofs.CommandLine.Reporting
import SqlDialects.Proofs.CommandLine.Showing
import SqlDialects.Proofs.Console.Escaping
import SqlDialects.Proofs.Console.Verbatim
import SqlDialects.Proofs.Decimal.Padded
import SqlDialects.Proofs.Diagnostics.Reading
import SqlDialects.Proofs.Dialect.Acceptance
import SqlDialects.Proofs.Dialect.Normalization
import SqlDialects.Proofs.Dialect.Table
import SqlDialects.Proofs.Failure.Wording
import SqlDialects.Proofs.Json.Controls
import SqlDialects.Proofs.Json.Finishing
import SqlDialects.Proofs.Json.Listing
import SqlDialects.Proofs.Json.Members
import SqlDialects.Proofs.Json.Numbers
import SqlDialects.Proofs.Json.RoundTrip
import SqlDialects.Proofs.Library.Checking
import SqlDialects.Proofs.Library.Choosing
import SqlDialects.Proofs.Library.Classification
import SqlDialects.Proofs.Library.Refusals
import SqlDialects.Proofs.Library.Transpiling
import SqlDialects.Proofs.Log.Calendar
import SqlDialects.Proofs.Log.Lines
import SqlDialects.Proofs.Log.Timestamps
import SqlDialects.Proofs.Session.Confinement
import SqlDialects.Proofs.Session.Consulting
import SqlDialects.Proofs.Session.Failing
import SqlDialects.Proofs.Session.Formatting
import SqlDialects.Proofs.Session.HostTrees
import SqlDialects.Proofs.Session.Inquiries
import SqlDialects.Proofs.Session.Leaks
import SqlDialects.Proofs.Session.Lifecycle
import SqlDialects.Proofs.Session.Likeness
import SqlDialects.Proofs.Session.Naming
import SqlDialects.Proofs.Session.Payload
import SqlDialects.Proofs.Session.Provision
import SqlDialects.Proofs.Session.Recovery
import SqlDialects.Proofs.Session.Regeneration
import SqlDialects.Proofs.Session.Registration
import SqlDialects.Proofs.Session.Reports
import SqlDialects.Proofs.Session.Resolution
import SqlDialects.Proofs.Session.Runs
import SqlDialects.Proofs.Session.Samples
import SqlDialects.Proofs.Session.Serving
import SqlDialects.Proofs.Session.Snapshots
import SqlDialects.Proofs.Session.Succeeding
import SqlDialects.Proofs.Session.Translation
import SqlDialects.Proofs.Session.Versions
import SqlDialects.Proofs.Settings.Files
import SqlDialects.Proofs.Settings.Loading
import SqlDialects.Proofs.Settings.Precedence
import SqlDialects.Proofs.Settings.Reloading
import SqlDialects.Proofs.Text.Lowered
import SqlDialects.Proofs.Text.Lowering
import SqlDialects.Proofs.Text.Splitting
import SqlDialects.Proofs.Validation.Faithful
import SqlDialects.Proofs.Validation.StrictJson
import SqlDialects.Proofs.Value.Exchange
import SqlDialects.Session.Basic
import SqlDialects.Session.Host
import SqlDialects.Session.Operations
import SqlDialects.Session.Payload
import SqlDialects.Settings.Basic
import SqlDialects.Settings.Dotenv
import SqlDialects.Settings.Loading
import SqlDialects.Sql.Exchange.Dump
import SqlDialects.Sql.Exchange.Load
import SqlDialects.Sql.Exchange.TypeName
import SqlDialects.Sql.Features
import SqlDialects.Sql.Features.Catalog
import SqlDialects.Sql.Features.Reserved
import SqlDialects.Sql.Function
import SqlDialects.Sql.Kind
import SqlDialects.Sql.Layout
import SqlDialects.Sql.Lexer
import SqlDialects.Sql.Library
import SqlDialects.Sql.Parser
import SqlDialects.Sql.Parser.Basic
import SqlDialects.Sql.Parser.Calls
import SqlDialects.Sql.Parser.Names
import SqlDialects.Sql.Parser.Queries
import SqlDialects.Sql.Parser.Rules
import SqlDialects.Sql.Parser.Statements
import SqlDialects.Sql.Parser.Tables
import SqlDialects.Sql.Parser.Terms
import SqlDialects.Sql.Printer.Basic
import SqlDialects.Sql.Printer.Calls
import SqlDialects.Sql.Printer.Queries
import SqlDialects.Sql.Printer.Statements
import SqlDialects.Sql.Printer.Terms
import SqlDialects.Sql.Rewriting.Amounts
import SqlDialects.Sql.Rewriting.Conditions
import SqlDialects.Sql.Rewriting.Definitions
import SqlDialects.Sql.Rewriting.Joins
import SqlDialects.Sql.Rewriting.Nesting
import SqlDialects.Sql.Rewriting.Outputs
import SqlDialects.Sql.Rewriting.Windows
import SqlDialects.Sql.Token
import SqlDialects.Sql.Token.Kind
import SqlDialects.Sql.Token.Word
import SqlDialects.Sql.Tree
import SqlDialects.Sql.Tree.Build
import SqlDialects.Sql.Tree.DataType
import SqlDialects.Sql.Tree.Output
import SqlDialects.Sql.Tree.Walk
import SqlDialects.Text.Blank
import SqlDialects.Text.Case
import SqlDialects.Text.CaseTable
import SqlDialects.Text.Printable
import SqlDialects.Text.Quoted
import SqlDialects.Text.Ranges
import SqlDialects.Text.Width
import SqlDialects.Text.WidthTable
import SqlDialects.Validation.Complaint
import SqlDialects.Validation.Field
import SqlDialects.Validation.StrictJson
import SqlDialects.Value.Basic
import SqlDialects.Value.Display
import SqlDialects.Value.Encoding
