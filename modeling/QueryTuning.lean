import QueryTuning.Main
import QueryTuning.Odbc.Script
import QueryTuning.Report.Settings
import QueryTuning.Proofs.Session.TaskTrace
import QueryTuning.Proofs.Session.Cancellation
import QueryTuning.Proofs.Session.Conduct
import QueryTuning.Proofs.Analysis.RoundTrips
import QueryTuning.Proofs.Analysis.Lifecycle
import QueryTuning.Proofs.Analysis.CallPlan
import QueryTuning.Proofs.Number.Magnitude
import QueryTuning.Proofs.Measure.Figures
import QueryTuning.Proofs.Index.Catalog
import QueryTuning.Proofs.Index.Entries
import QueryTuning.Proofs.Index.Signatures
import QueryTuning.Proofs.Index.Duplicates
import QueryTuning.Proofs.Statement.Tokens
import QueryTuning.Proofs.Session.Mandatory
import QueryTuning.Proofs.Analysis.Replies
import QueryTuning.Proofs.Analysis.Failures
import QueryTuning.Proofs.Analysis.OptionalReplies
import QueryTuning.Proofs.Text.Runs
import QueryTuning.Proofs.Pattern.Ends
import QueryTuning.Proofs.Pattern.Scan
import QueryTuning.Proofs.Text.Ascii
import QueryTuning.Proofs.Text.Words
import QueryTuning.Proofs.Query.Comments
import QueryTuning.Proofs.Query.CommentRemoval
import QueryTuning.Proofs.Query.Cuts
import QueryTuning.Proofs.Query.Remedies
import QueryTuning.Proofs.Query.RevisedWords
import QueryTuning.Proofs.Index.CreateStatement
import QueryTuning.Proofs.Statement.LikePattern
import QueryTuning.Proofs.Odbc.Requests
import QueryTuning.Proofs.Odbc.PlanModes
import QueryTuning.Proofs.Query.ServerNames
import QueryTuning.Proofs.Query.Placeholders
import QueryTuning.Proofs.Query.Discarding
import QueryTuning.Proofs.Text.Margins
import QueryTuning.Proofs.Pattern.Edges
import QueryTuning.Proofs.Query.Issues
import QueryTuning.Proofs.Pattern.Case
import QueryTuning.Proofs.Query.LetterCase
import QueryTuning.Proofs.Pattern.Spacing
import QueryTuning.Proofs.Query.Shapes
import QueryTuning.Proofs.Query.Agreement
import QueryTuning.Proofs.Plan.MissingIndexes
import QueryTuning.Proofs.Plan.Namespaces
import QueryTuning.Proofs.Session.Evaluation
import QueryTuning.Proofs.Analysis.Stages
import QueryTuning.Proofs.Index.TableNames
import QueryTuning.Proofs.Session.Refusals
import QueryTuning.Proofs.Query.Hints
import QueryTuning.Proofs.Analysis.Refusals
import QueryTuning.Proofs.Number.Order
import QueryTuning.Proofs.Index.Impact
import QueryTuning.Proofs.Advice.Ranking
import QueryTuning.Proofs.Index.Recommendations
import QueryTuning.Proofs.Text.JoinedWords
import QueryTuning.Proofs.Query.WordsApart
import QueryTuning.Proofs.Index.DropStatement
import QueryTuning.Proofs.Pattern.Parts
import QueryTuning.Proofs.Query.TableReferences
import QueryTuning.Proofs.CommandLine.Marks
import QueryTuning.Proofs.CommandLine.ShownStatements
import QueryTuning.Proofs.Number.Grid
import QueryTuning.Proofs.Settings.TimeLimit
import QueryTuning.Proofs.Measure.Exact
import QueryTuning.Proofs.Measure.MeasuredRuns
import QueryTuning.Proofs.Odbc.PlanSearch
import QueryTuning.Proofs.Query.Rating
import QueryTuning.Proofs.Pattern.Choices
import QueryTuning.Proofs.Text.CharRanges
import QueryTuning.Proofs.Query.Identifiers
import QueryTuning.Proofs.Query.CommaJoins
import QueryTuning.Proofs.Query.TypedValues
import QueryTuning.Proofs.Query.MixedComparisons
import QueryTuning.Proofs.Query.Calls
import QueryTuning.Proofs.Pattern.Lines
import QueryTuning.Proofs.Query.NormalForm
import QueryTuning.Proofs.Lists
