import RecordSync.Attribute.Coercion
import RecordSync.Attribute.Definition
import RecordSync.Attribute.Difference
import RecordSync.Attribute.Error
import RecordSync.Attribute.Mapper
import RecordSync.Attribute.Merge
import RecordSync.Attribute.Resolution
import RecordSync.Attribute.Spec
import RecordSync.Batch.Report
import RecordSync.Batch.Run
import RecordSync.Batch.Statistics
import RecordSync.Bundled.Libraries
import RecordSync.Bundled.Regex.Node
import RecordSync.Bundled.Regex.Program
import RecordSync.Bundled.Regex.Reader
import RecordSync.Bundled.Regex.Search
import RecordSync.Bundled.Regex.Size
import RecordSync.Bundled.Script.Datum
import RecordSync.Bundled.Script.Evaluator
import RecordSync.Bundled.Script.Expr
import RecordSync.Bundled.Script.Fold
import RecordSync.Bundled.Script.Function
import RecordSync.Bundled.Script.Grammar
import RecordSync.Bundled.Script.Machine
import RecordSync.Bundled.Script.Operator
import RecordSync.Bundled.Script.Remainder
import RecordSync.Bundled.Script.Token
import RecordSync.Bundled.Text.Case
import RecordSync.Bundled.Text.CaseTable
import RecordSync.Bundled.Text.CasedTable
import RecordSync.Bundled.Text.Pieces
import RecordSync.Bundled.Text.WordTable
import RecordSync.Bundled.Yaml.Node
import RecordSync.Bundled.Yaml.Reader
import RecordSync.Bundled.Yaml.Scalar
import RecordSync.Bundled.Yaml.Workflow
import RecordSync.Change
import RecordSync.Command.Arguments
import RecordSync.Command.Error
import RecordSync.Command.Input
import RecordSync.Command.Run
import RecordSync.Command.Validate
import RecordSync.Document.Binary
import RecordSync.Document.Comparison
import RecordSync.Document.Decode
import RecordSync.Document.InPlace
import RecordSync.Document.Path
import RecordSync.Document.Printer
import RecordSync.Document.Reader
import RecordSync.Document.Value
import RecordSync.Endpoint.Basic
import RecordSync.Filter
import RecordSync.Identifier
import RecordSync.Keyed
import RecordSync.Libraries
import RecordSync.Limits
import RecordSync.Lookup
import RecordSync.Main
import RecordSync.Number.Layout
import RecordSync.Number.Numeral
import RecordSync.Number.Shortest
import RecordSync.Pattern
import RecordSync.Proofs.Acceptance
import RecordSync.Proofs.Additions
import RecordSync.Proofs.Agreement
import RecordSync.Proofs.Base64
import RecordSync.Proofs.Batches
import RecordSync.Proofs.BinaryValues
import RecordSync.Proofs.ByteOrder
import RecordSync.Proofs.Commutation
import RecordSync.Proofs.Conformance
import RecordSync.Proofs.Contents
import RecordSync.Proofs.Convergence
import RecordSync.Proofs.Declarations
import RecordSync.Proofs.Deliveries
import RecordSync.Proofs.Deltas
import RecordSync.Proofs.DirectWalks
import RecordSync.Proofs.DottedMerges
import RecordSync.Proofs.DryRuns
import RecordSync.Proofs.EdgeCounts
import RecordSync.Proofs.EdgePlans
import RecordSync.Proofs.Edges
import RecordSync.Proofs.ElementwiseMaps
import RecordSync.Proofs.Entries
import RecordSync.Proofs.ExportTwice
import RecordSync.Proofs.Exports
import RecordSync.Proofs.ExpressionPlaces
import RecordSync.Proofs.FailedImports
import RecordSync.Proofs.FailingExpressions
import RecordSync.Proofs.Forecasts
import RecordSync.Proofs.FoundAgain
import RecordSync.Proofs.Identities
import RecordSync.Proofs.ImportPlans
import RecordSync.Proofs.ImportTable
import RecordSync.Proofs.ImportTwice
import RecordSync.Proofs.Imports
import RecordSync.Proofs.KeyedDocuments
import RecordSync.Proofs.LargeIntegers
import RecordSync.Proofs.LinkedImports
import RecordSync.Proofs.LoneAttributes
import RecordSync.Proofs.LonePaths
import RecordSync.Proofs.Magnitudes
import RecordSync.Proofs.Mapping
import RecordSync.Proofs.Matching
import RecordSync.Proofs.MergeSteps
import RecordSync.Proofs.MergeTable
import RecordSync.Proofs.Merging
import RecordSync.Proofs.NoDifference
import RecordSync.Proofs.Numerals
import RecordSync.Proofs.ObjectWrites
import RecordSync.Proofs.Passes
import RecordSync.Proofs.PathChanges
import RecordSync.Proofs.PathRemovals
import RecordSync.Proofs.PathWrites
import RecordSync.Proofs.PlainNames
import RecordSync.Proofs.Plans
import RecordSync.Proofs.PrintedDocuments
import RecordSync.Proofs.PrintedNumbers
import RecordSync.Proofs.PrintedRecords
import RecordSync.Proofs.Rearrangements
import RecordSync.Proofs.Reconciliation
import RecordSync.Proofs.RecordedIdentifiers
import RecordSync.Proofs.Reports
import RecordSync.Proofs.RequiredPatterns
import RecordSync.Proofs.Retries
import RecordSync.Proofs.Rounding
import RecordSync.Proofs.Runs
import RecordSync.Proofs.SamePolicy
import RecordSync.Proofs.Sameness
import RecordSync.Proofs.SingleEdges
import RecordSync.Proofs.Sweeps
import RecordSync.Proofs.Symmetry
import RecordSync.Proofs.Typing
import RecordSync.Proofs.Unions
import RecordSync.Proofs.ValidWorkflows
import RecordSync.Proofs.Walks
import RecordSync.Proofs.WholeNumbers
import RecordSync.Proofs.WholeParts
import RecordSync.Proofs.Wrappers
import RecordSync.Proofs.WrittenForms
import RecordSync.Store.Basic
import RecordSync.Store.Object
import RecordSync.Sync.Engine
import RecordSync.Sync.Outcome
import RecordSync.Sync.Relations
import RecordSync.Sync.Session
import RecordSync.Text.Blank
import RecordSync.Text.CharRange
import RecordSync.Text.HiddenTable
import RecordSync.Text.Pieces
import RecordSync.Text.Quoted
import RecordSync.Timestamp
import RecordSync.Workflow.Basic
import RecordSync.Workflow.Error
import RecordSync.Workflow.Spec
