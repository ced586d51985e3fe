import MigrationLedger.Calendar
import MigrationLedger.CommandLine.Arguments
import MigrationLedger.CommandLine.Failure
import MigrationLedger.CommandLine.Help
import MigrationLedger.CommandLine.Platform
import MigrationLedger.CommandLine.Program
import MigrationLedger.CommandLine.Report
import MigrationLedger.CommandLine.Setup
import MigrationLedger.Config
import MigrationLedger.Config.File
import MigrationLedger.Config.Notation
import MigrationLedger.Config.Yaml
import MigrationLedger.Database.Error
import MigrationLedger.Database.Recording
import MigrationLedger.Database.Session
import MigrationLedger.Database.Transaction
import MigrationLedger.Database.Url
import MigrationLedger.Engine.Cast
import MigrationLedger.Engine.Catalog
import MigrationLedger.Engine.Database
import MigrationLedger.Engine.Error
import MigrationLedger.Engine.Execution
import MigrationLedger.Engine.File
import MigrationLedger.Engine.Query
import MigrationLedger.Engine.Reader
import MigrationLedger.Engine.Statement
import MigrationLedger.Engine.Store
import MigrationLedger.Engine.Value
import MigrationLedger.Failure
import MigrationLedger.FileTree
import MigrationLedger.Json.Printer
import MigrationLedger.Json.Value
import MigrationLedger.Main
import MigrationLedger.Migration
import MigrationLedger.Migration.Bundled
import MigrationLedger.Migration.Record
import MigrationLedger.Migration.Source
import MigrationLedger.Migration.State
import MigrationLedger.Name
import MigrationLedger.Number.Binary
import MigrationLedger.Number.Decimal
import MigrationLedger.Path
import MigrationLedger.Runner
import MigrationLedger.Settings
import MigrationLedger.Sql.Dialect
import MigrationLedger.Sql.DuckDb
import MigrationLedger.Sql.Grammar.Block
import MigrationLedger.Sql.Grammar.Change
import MigrationLedger.Sql.Grammar.Column
import MigrationLedger.Sql.Grammar.DataType
import MigrationLedger.Sql.Grammar.Definition
import MigrationLedger.Sql.Grammar.Expression
import MigrationLedger.Sql.Grammar.Name
import MigrationLedger.Sql.Grammar.Projection
import MigrationLedger.Sql.Grammar.Query
import MigrationLedger.Sql.Grammar.Relation
import MigrationLedger.Sql.Grammar.Statement
import MigrationLedger.Sql.Lexer
import MigrationLedger.Sql.Parse
import MigrationLedger.Sql.Qualifier
import MigrationLedger.Sql.Script
import MigrationLedger.Sql.Token
import MigrationLedger.Text.Blank
import MigrationLedger.Text.Letter
import MigrationLedger.Text.Search
import MigrationLedger.Tracker
import MigrationLedger.Validation
import MigrationLedger.Yaml.Cursor
import MigrationLedger.Yaml.Lexer
import MigrationLedger.Yaml.Node
import MigrationLedger.Yaml.Property
import MigrationLedger.Yaml.Scalar
import MigrationLedger.Yaml.Token
import MigrationLedger.Proofs.Session.Dialogue
import MigrationLedger.Proofs.Transaction.Scope
import MigrationLedger.Proofs.Runner.Attempt
import MigrationLedger.Proofs.Runner.Recognition
import MigrationLedger.Proofs.Runner.Protocol
import MigrationLedger.Proofs.Recording.Refusal
import MigrationLedger.Proofs.Recording.Rules
import MigrationLedger.Proofs.Runner.Bookkeeping
import MigrationLedger.Proofs.Runner.Progress
import MigrationLedger.Proofs.Runner.Atomicity
import MigrationLedger.Proofs.Runner.Resumption
import MigrationLedger.Proofs.Runner.Uses
import MigrationLedger.Proofs.Runner.Uniqueness
import MigrationLedger.Proofs.Text.ByteOrder
import MigrationLedger.Proofs.Runner.Success
import MigrationLedger.Proofs.Sql.Offset
import MigrationLedger.Proofs.Sql.Tiling
import MigrationLedger.Proofs.Sql.DuckDb.Reading
import MigrationLedger.Proofs.Sql.Splicing
import MigrationLedger.Proofs.Sql.Qualification
import MigrationLedger.Proofs.Sql.Relations
import MigrationLedger.Proofs.Text.Trimming
import MigrationLedger.Proofs.Sql.Pieces
import MigrationLedger.Proofs.Sql.Segmentation
import MigrationLedger.Proofs.Sql.DuckDb.Scanning
import MigrationLedger.Proofs.Sql.Passing
import MigrationLedger.Proofs.Sql.Spelling
import MigrationLedger.Proofs.Sql.DuckDb.Spelling
import MigrationLedger.Proofs.Sql.Agreement
import MigrationLedger.Proofs.Sql.Rereading
import MigrationLedger.Proofs.Sql.Blankness
import MigrationLedger.Proofs.Runner.Repetition
import MigrationLedger.Proofs.Runner.Forecast
import MigrationLedger.Proofs.Runner.Bystander
import MigrationLedger.Proofs.Sql.Counting
import MigrationLedger.Proofs.Sql.DuckDb.Counting
import MigrationLedger.Proofs.Settings.FullName
import MigrationLedger.Proofs.Session.Transcript
import MigrationLedger.Proofs.Runner.Breakdown
import MigrationLedger.Proofs.Runner.Staging
import MigrationLedger.Proofs.Runner.History
import MigrationLedger.Proofs.Runner.AtRest
import MigrationLedger.Proofs.Runner.UnderWay
import MigrationLedger.Proofs.Runner.Transitions
import MigrationLedger.Proofs.Recording.Log
import MigrationLedger.Proofs.Runner.Invisibility
import MigrationLedger.Proofs.Runner.SentTexts
import MigrationLedger.Proofs.Runner.Renaming
import MigrationLedger.Proofs.Runner.Host
import MigrationLedger.Proofs.Runner.Bootstrap
import MigrationLedger.Proofs.Sql.TokensAlone
import MigrationLedger.Proofs.Transaction.Ending
import MigrationLedger.Proofs.Sql.ByteScan
import MigrationLedger.Proofs.Sql.DuckDb.Lookahead
import MigrationLedger.Proofs.Sql.DuckDb.Numerals
import MigrationLedger.Proofs.Sql.DuckDb.TokenEnds
import MigrationLedger.Proofs.Sql.Respelling
import MigrationLedger.Proofs.Sql.DuckDb.Respelling
import MigrationLedger.Proofs.Sql.Requalifying
import MigrationLedger.Proofs.Runner.Listing
import MigrationLedger.Proofs.Runner.Inspection
import MigrationLedger.Proofs.Runner.Duplicates
import MigrationLedger.Proofs.Runner.Overview
import MigrationLedger.Proofs.Source.Layers
import MigrationLedger.Proofs.Text.Occurrence
import MigrationLedger.Proofs.Database.Classification
import MigrationLedger.Proofs.Database.Address
import MigrationLedger.Proofs.Path.Directory
import MigrationLedger.Proofs.CommandLine.Loading
import MigrationLedger.Proofs.Json.Likeness
import MigrationLedger.Proofs.Config.Rereading
import MigrationLedger.Proofs.Sql.Position
import MigrationLedger.Proofs.CommandLine.Table
import MigrationLedger.Proofs.Runner.Sorting
import MigrationLedger.Proofs.Runner.FirstAttempt
import MigrationLedger.Proofs.Session.Texts
import MigrationLedger.Proofs.Session.Holding
import MigrationLedger.Proofs.Settings.Identifiers
import MigrationLedger.Proofs.Source.Offers
import MigrationLedger.Proofs.Source.Tree
