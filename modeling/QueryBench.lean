import QueryBench.Text.Blank
import QueryBench.Text.Case
import QueryBench.Text.Search
import QueryBench.Text.Quoted
import QueryBench.Number.Shortest
import QueryBench.Number.Fixed
import QueryBench.Number.Numeral
import QueryBench.Doc.Access
import QueryBench.Json.Reader
import QueryBench.Json.Writer
import QueryBench.Plan.Sql
import QueryBench.Evaluation
import QueryBench.Pipeline.Run
import QueryBench.Schema.Financial
import QueryBench.Run.TestSet
import QueryBench.Run.Reprocess
import QueryBench.Baseline.Keyed
import QueryBench.Baseline.Positional
import QueryBench.Vector.Index
import QueryBench.Schema.TextColumns
import QueryBench.Page.Show
import QueryBench.Demo.Search
import QueryBench.Demo.Collection
import QueryBench.Demo.Questions
import QueryBench.Router.Training
import QueryBench.Statistics.Comparison
import QueryBench.Statistics.Financial
import QueryBench.World.Read
import QueryBench.Main
import QueryBench.Proofs.Outcome
import QueryBench.Proofs.Console
import QueryBench.Proofs.Compare.Assignment
import QueryBench.Proofs.Compare.SoftMatch
import QueryBench.Proofs.Evaluation
import QueryBench.Proofs.Number.Bits
import QueryBench.Proofs.Number.Nearest
import QueryBench.Proofs.Number.Shortest
import QueryBench.Proofs.Json.Numeral
import QueryBench.Proofs.Json.Decimal
import QueryBench.Proofs.Json.Quoted
import QueryBench.Proofs.Json.RoundTrip
import QueryBench.Proofs.Json.Torn
import QueryBench.Proofs.Json.Checked
import QueryBench.Proofs.Files
import QueryBench.Proofs.Text.Lines
import QueryBench.Proofs.Plan.Settled
import QueryBench.Proofs.Pipeline.Steady
import QueryBench.Proofs.Tally
import QueryBench.Proofs.Run.Report
import QueryBench.Proofs.Run.Workspace
import QueryBench.Proofs.Run.Resumption
import QueryBench.Proofs.Json.Plain
import QueryBench.Proofs.Json.Whole
import QueryBench.Proofs.Compare.Rectangular
import QueryBench.Proofs.Plan.Opening
import QueryBench.Proofs.Pipeline.Arising
import QueryBench.Proofs.Run.Revision
import QueryBench.Proofs.Files.Folders
import QueryBench.Proofs.Run.Handling
import QueryBench.Proofs.Run.Reprocessing
import QueryBench.Proofs.Plan.Leaves
import QueryBench.Proofs.Doc.Unmarked
import QueryBench.Proofs.Plan.Calls
import QueryBench.Proofs.Plan.Dangling
import QueryBench.Proofs.Text.Balanced
import QueryBench.Proofs.Plan.Balanced
import QueryBench.Proofs.Plan.Readability
import QueryBench.Proofs.Plan.Related
import QueryBench.Proofs.Plan.Circularity
import QueryBench.Proofs.Tally.Adding
import QueryBench.Proofs.Pipeline.Totality
import QueryBench.Proofs.Plan.Locality
import QueryBench.Proofs.Database.Widening
import QueryBench.Proofs.Page.Agreement
import QueryBench.Proofs.Run.Idempotence
import QueryBench.Proofs.Plan.Root
import QueryBench.Proofs.Plan.Compound
import QueryBench.Proofs.Plan.Entries
import QueryBench.Proofs.Tally.Headings
import QueryBench.Proofs.Json.Indented
import QueryBench.Proofs.Run.Accounting
import QueryBench.Proofs.Number.Size
import QueryBench.Proofs.Doc.Same
import QueryBench.Proofs.Compare.FirstFit
import QueryBench.Proofs.Compare.Matching
import QueryBench.Proofs.Vector.Building
import QueryBench.Proofs.Compare.ColumnMap
import QueryBench.Proofs.Compare.Grades
import QueryBench.Proofs.Plan.Quoting
import QueryBench.Proofs.Vector.Selection
import QueryBench.Proofs.Plan.Membership
import QueryBench.Proofs.Baseline.Findings
import QueryBench.Proofs.Dataset.Rows
import QueryBench.Proofs.Baseline.Comparison
import QueryBench.Proofs.Baseline.Failures
import QueryBench.Proofs.Text.Search
import QueryBench.Proofs.Plan.TableNames
import QueryBench.Proofs.Baseline.Cleaning
import QueryBench.Proofs.Vector.Failure
import QueryBench.Proofs.Run.Summary
