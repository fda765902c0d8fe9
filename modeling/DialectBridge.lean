import DialectBridge.Address
import DialectBridge.Calendar.Date
import DialectBridge.Calendar.Interval
import DialectBridge.Calendar.Layout
import DialectBridge.Calendar.Moment
import DialectBridge.Calendar.Specifier
import DialectBridge.Database.Builtin
import DialectBridge.Database.Change
import DialectBridge.Database.Coercion
import DialectBridge.Database.Connection
import DialectBridge.Database.Evaluation
import DialectBridge.Database.ExpressionReader
import DialectBridge.Database.Problem
import DialectBridge.Database.Reader
import DialectBridge.Database.Resolution
import DialectBridge.Database.Route
import DialectBridge.Database.Selection
import DialectBridge.Database.StatementReader
import DialectBridge.Database.Store
import DialectBridge.Database.Syntax
import DialectBridge.Database.Token
import DialectBridge.Decimal.Binary
import DialectBridge.Decimal.Integer
import DialectBridge.Decimal.Reading
import DialectBridge.Decimal.Shortest
import DialectBridge.Decimal.Significant
import DialectBridge.Diagnostic.Code
import DialectBridge.Diagnostic.Decoding
import DialectBridge.Diagnostic.EngineFailure
import DialectBridge.Diagnostic.Report
import DialectBridge.Diagnostic.Suggestion
import DialectBridge.Digest
import DialectBridge.Emulation.Arity
import DialectBridge.Emulation.Dates
import DialectBridge.Emulation.Environment
import DialectBridge.Emulation.Fault
import DialectBridge.Emulation.Function
import DialectBridge.Emulation.Numbers
import DialectBridge.Emulation.Strings
import DialectBridge.Emulation.Table
import DialectBridge.Json.Basic
import DialectBridge.Json.Reader
import DialectBridge.Pattern.Basic
import DialectBridge.Pattern.CharSet
import DialectBridge.Pattern.PropertyName
import DialectBridge.Pattern.Reader
import DialectBridge.Proofs.Batches.Joining
import DialectBridge.Proofs.Batches.NormalForm
import DialectBridge.Proofs.Batches.Quoting
import DialectBridge.Proofs.Characters
import DialectBridge.Proofs.Diagnostic.TextForm
import DialectBridge.Proofs.Emulation.Provenance
import DialectBridge.Proofs.Emulation.Returning
import DialectBridge.Proofs.IndexNames.Recognition
import DialectBridge.Proofs.IndexNames.Uniqueness
import DialectBridge.Proofs.Installation.Atomicity
import DialectBridge.Proofs.Installation.Calls
import DialectBridge.Proofs.Installation.Reporting
import DialectBridge.Proofs.Installation.Simulation
import DialectBridge.Proofs.Occurrences
import DialectBridge.Proofs.Outcomes
import DialectBridge.Proofs.Retrying
import DialectBridge.Proofs.Statement.BareTree
import DialectBridge.Proofs.Statement.Formula
import DialectBridge.Proofs.Statement.FormulaReading
import DialectBridge.Proofs.Statement.FormulaText
import DialectBridge.Proofs.Statement.Preservation
import DialectBridge.Proofs.Statement.Rearrangement
import DialectBridge.Proofs.Statement.Running
import DialectBridge.Proofs.Statement.Selection
import DialectBridge.Proofs.Statement.Substitution
import DialectBridge.Proofs.Trimming
import DialectBridge.Redaction.Sensitive
import DialectBridge.Redaction.Shape
import DialectBridge.Retry
import DialectBridge.Schema.Batch
import DialectBridge.Schema.Fault
import DialectBridge.Schema.IndexName
import DialectBridge.Schema.IndexRegistry
import DialectBridge.Schema.Installer
import DialectBridge.Schema.Plan
import DialectBridge.Session
import DialectBridge.Settings.Assignment
import DialectBridge.Settings.Basic
import DialectBridge.Settings.Location
import DialectBridge.Settings.LogFilter
import DialectBridge.Settings.Toml
import DialectBridge.Settings.Yaml
import DialectBridge.Statement.Call
import DialectBridge.Statement.DataType
import DialectBridge.Statement.Definition
import DialectBridge.Statement.Expression
import DialectBridge.Statement.Phrase
import DialectBridge.Statement.Query
import DialectBridge.Statement.Reader
import DialectBridge.Statement.Rewriting
import DialectBridge.Statement.Token
import DialectBridge.Text.Blank
import DialectBridge.Text.Category
import DialectBridge.Text.CodeRanges
import DialectBridge.Text.Folding
import DialectBridge.Text.Hexadecimal
import DialectBridge.Text.Lowercase
import DialectBridge.Text.Script
import DialectBridge.Text.Utf8
import DialectBridge.Value
import DialectBridge.Proofs.Calendar.DayNumbers
import DialectBridge.Proofs.Calendar.Shifting
import DialectBridge.Proofs.Decimal.WholeNumbers
import DialectBridge.Proofs.Calendar.Written
import DialectBridge.Proofs.Emulation.DateRoundTrips
import DialectBridge.Proofs.Emulation.DateComponents
import DialectBridge.Proofs.Statement.Completing
import DialectBridge.Proofs.Database.Scanning
import DialectBridge.Proofs.Database.Reading
import DialectBridge.Proofs.Emulation.Nulls
import DialectBridge.Proofs.Emulation.Fragments
import DialectBridge.Proofs.IndexNames.Written
import DialectBridge.Proofs.IndexNames.Plainness
import DialectBridge.Proofs.LowerCase
import DialectBridge.Proofs.Statement.Silence
import DialectBridge.Proofs.Statement.Layout
import DialectBridge.Proofs.Statement.FormedCalls
import DialectBridge.Proofs.Statement.FormedQueries
import DialectBridge.Proofs.Statement.FormedExpressions
import DialectBridge.Proofs.Statement.FormedStatements
import DialectBridge.Proofs.Statement.Idempotence
import DialectBridge.Proofs.IndexNames.Exhaustion
import DialectBridge.Proofs.Calendar.Quantities
import DialectBridge.Proofs.Calendar.Totals
import DialectBridge.Proofs.Checked.Calls
import DialectBridge.Proofs.Emulation.IntervalTotals
import DialectBridge.Proofs.Emulation.WeekSpecifiers
import DialectBridge.Proofs.Diagnostic.Suggesting
import DialectBridge.Proofs.Installation.Causes
import DialectBridge.Proofs.Checked.Octets
import DialectBridge.Proofs.Emulation.Locating
import DialectBridge.Proofs.LetterCase
import DialectBridge.Proofs.Emulation.FieldCase
import DialectBridge.Proofs.Calendar.Signs
import DialectBridge.Proofs.Calendar.Matching
import DialectBridge.Proofs.Calendar.Stamps
import DialectBridge.Proofs.Emulation.DateTexts
import DialectBridge.Proofs.IndexNames.Renaming
import DialectBridge.Proofs.IndexNames.Necessity
import DialectBridge.Proofs.Decimal.Rounding
import DialectBridge.Proofs.Decimal.Doubles
import DialectBridge.Proofs.Emulation.FieldNumbers
import DialectBridge.Proofs.Redaction.Addresses
import DialectBridge.Proofs.Calendar.MonthShifts
import DialectBridge.Proofs.Calendar.NumberIntervals
import DialectBridge.Proofs.Emulation.DayDifferences
import DialectBridge.Proofs.Statement.QuickTest
import DialectBridge.Proofs.Calendar.FormatTokens
import DialectBridge.Proofs.Emulation.NetworkAddresses
import DialectBridge.Proofs.Redaction.Matching
import DialectBridge.Proofs.Redaction.Leftovers
import DialectBridge.Proofs.Decimal.NearestDoubles
import DialectBridge.Proofs.Decimal.StoredDoubles
import DialectBridge.Proofs.Decimal.ShortestDecimals
import DialectBridge.Proofs.Decimal.PlainNotation
import DialectBridge.Proofs.Database.RealNumbers
import DialectBridge.Proofs.Emulation.RealArguments
import DialectBridge.Proofs.Delays
import DialectBridge.Proofs.Diagnostic.CodeSpellings
import DialectBridge.Proofs.Diagnostic.DistanceTable
import DialectBridge.Proofs.Json.RoundTrip
import DialectBridge.Proofs.Diagnostic.JsonForm
