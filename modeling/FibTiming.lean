import FibTiming.Benchmark
import FibTiming.Clock
import FibTiming.CommandLine.Arguments
import FibTiming.CommandLine.Flag
import FibTiming.CommandLine.Request
import FibTiming.Config
import FibTiming.Fibonacci
import FibTiming.Files
import FibTiming.Invocation
import FibTiming.Loading
import FibTiming.Log
import FibTiming.Main
import FibTiming.Number.Binary
import FibTiming.Number.Binary64
import FibTiming.Number.Extended
import FibTiming.Number.FixedPlaces
import FibTiming.Number.IntegerText
import FibTiming.Number.Numeral
import FibTiming.Number.Rounding
import FibTiming.Number.Shortest
import FibTiming.Program
import FibTiming.Proofs.Fibonacci
import FibTiming.Proofs.Job
import FibTiming.Proofs.Outcome
import FibTiming.Registry
import FibTiming.Rehearsal
import FibTiming.Report.Ambiguous
import FibTiming.Report.Color
import FibTiming.Report.Document
import FibTiming.Report.Scalar
import FibTiming.Report.Status
import FibTiming.Result
import FibTiming.Runner
import FibTiming.Suite
import FibTiming.SuiteFile.Access
import FibTiming.SuiteFile.Body
import FibTiming.SuiteFile.CommonType
import FibTiming.SuiteFile.Conversion
import FibTiming.SuiteFile.Diagnostic
import FibTiming.SuiteFile.Document
import FibTiming.SuiteFile.Equality
import FibTiming.SuiteFile.Evaluation
import FibTiming.SuiteFile.Expr
import FibTiming.SuiteFile.Operation
import FibTiming.SuiteFile.Reader
import FibTiming.SuiteFile.Region
import FibTiming.SuiteFile.Setting
import FibTiming.SuiteFile.Template
import FibTiming.SuiteFile.Token
import FibTiming.SuiteFile.Value
import FibTiming.Text.Blank
import FibTiming.Text.CharRanges
import FibTiming.Text.Composed
import FibTiming.Text.CompositionTable
import FibTiming.Text.Distance
import FibTiming.Text.Grapheme
import FibTiming.Text.GraphemeTable
import FibTiming.Text.Identifier
import FibTiming.Text.LowerCase
import FibTiming.Text.Printable
import FibTiming.Text.Quoted
import FibTiming.Text.Width
import FibTiming.TimeUnit
import FibTiming.Timestamp
import FibTiming.Proofs.Pool
import FibTiming.Proofs.Validation
import FibTiming.Proofs.Rehearsal
import FibTiming.Proofs.Registry
import FibTiming.Proofs.ExactResults
import FibTiming.Proofs.Schedules
import FibTiming.Proofs.Loading
import FibTiming.Proofs.Publishing
import FibTiming.Proofs.Requests
import FibTiming.Proofs.ExitCode
import FibTiming.Proofs.WholeNumber
import FibTiming.Proofs.Settings
import FibTiming.Proofs.Acceptance
import FibTiming.Proofs.Overflow
import FibTiming.Proofs.LocalValues
import FibTiming.Proofs.LoadingOrder
import FibTiming.Proofs.Interruption
import FibTiming.Proofs.StatusForms
import FibTiming.Proofs.Verdicts
import FibTiming.Proofs.ByteOrder
import FibTiming.Proofs.Configurations
import FibTiming.Proofs.Registrations
import FibTiming.Proofs.SameBenchmark
import FibTiming.Proofs.Endings
import FibTiming.Proofs.FlagOrder
import FibTiming.Proofs.IntegerText
import FibTiming.Proofs.WrittenConfigurations
import FibTiming.Proofs.Repetitions
import FibTiming.Proofs.ScalarReading
import FibTiming.Proofs.ReportReading
import FibTiming.Proofs.CheckedSuites
import FibTiming.Proofs.DecimalNumerals
import FibTiming.Proofs.Times
import FibTiming.Proofs.FoundFiles
import FibTiming.Proofs.SuiteRuns
import FibTiming.Proofs.LineBreaks
import FibTiming.Proofs.ReachedFiles
import FibTiming.Proofs.VisitingOrder
import FibTiming.Proofs.Accumulation
import FibTiming.Proofs.RoundingErrors
import FibTiming.Proofs.DecimalPlaces
import FibTiming.Proofs.ShownTimes
import FibTiming.Proofs.ColorRemoval
