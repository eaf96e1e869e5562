import Agenda.Text.Basic
import Agenda.Text.Hidden
import Agenda.Names
import Agenda.Calendar.Date
import Agenda.Calendar.DateText
import Agenda.Record.Basic
import Agenda.Evaluation.Metric
import Agenda.Schema
import Agenda.Query.Due
import Agenda.Query.Basic
import Agenda.Query.Error
import Agenda.Query.Classify
import Agenda.Query.Compile
import Agenda.Query.Defaults
import Agenda.Evaluation.Row
import Agenda.Evaluation.Evaluate
import Agenda.Json.Basic
import Agenda.Json.Reader
import Agenda.Files.Basic
import Agenda.Record.Load
import Agenda.Store.Basic
import Agenda.Engine
import Agenda.Toml.Value
import Agenda.Toml.Reader
import Agenda.Files.Disk
import Agenda.Settings.Load
import Agenda.Report
import Agenda.CommandLine.Arguments
import Agenda.CommandLine.Run
import Agenda.Main
import Agenda.Proofs.Names
import Agenda.Proofs.Outcomes
import Agenda.Proofs.Query.Classification
import Agenda.Proofs.Query.Lexing
import Agenda.Proofs.Query.Words
import Agenda.Proofs.Query.Steps
import Agenda.Proofs.Query.WellFormed
import Agenda.Proofs.Query.Meaning
import Agenda.Proofs.Evaluation.Outcome
import Agenda.Proofs.Store.Steps
import Agenda.Proofs.Engine.Failure
import Agenda.Proofs.Query.Loading
import Agenda.Proofs.Engine.SavedQueries
import Agenda.Proofs.Json.RoundTrip
import Agenda.Proofs.Json.Decoding
import Agenda.Proofs.Store.Reopening
import Agenda.Proofs.Store.Durability
import Agenda.Proofs.Evaluation.Joins
import Agenda.Proofs.Evaluation.Stages
import Agenda.Proofs.Evaluation.Order
import Agenda.Proofs.Evaluation.SortedRows
import Agenda.Proofs.Evaluation.Cells
import Agenda.Proofs.Calendar.DateText
import Agenda.Proofs.Evaluation.Grouping
import Agenda.Proofs.Evaluation.Partition
import Agenda.Proofs.Evaluation.TokenOrder
import Agenda.Proofs.Evaluation.Narrowing
import Agenda.Proofs.Calendar.DayNumber
import Agenda.Proofs.Calendar.Order
import Agenda.Proofs.Calendar.Windows
import Agenda.Proofs.Evaluation.BreakingOff
import Agenda.Proofs.Engine.Replacement
import Agenda.Proofs.Engine.Requests
import Agenda.Proofs.Engine.Restarts
import Agenda.Proofs.Engine.History
import Agenda.Proofs.Engine.Rerun
import Agenda.Proofs.Evaluation.TextSearch
import Agenda.Proofs.Query.DefaultTokens
import Agenda.Proofs.Query.DueWindows
import Agenda.Proofs.Query.Quotes
import Agenda.Proofs.Query.EmptyNames
import Agenda.Proofs.Query.Mismatch
import Agenda.Proofs.Query.DirectiveValues
import Agenda.Proofs.Text.Numerals
import Agenda.Proofs.Query.DueExpressions
import Agenda.Proofs.Query.PriorityExpressions
import Agenda.Proofs.Query.MonthDays
import Agenda.Proofs.Evaluation.Overdue
import Agenda.Proofs.Evaluation.RollUp
import Agenda.Proofs.Query.NameResolution
import Agenda.Proofs.Query.QuotedNames
import Agenda.Proofs.Query.SeveralTokens
import Agenda.Proofs.Record.RoundTrip
import Agenda.Proofs.Text.Recasing
import Agenda.Proofs.Query.WordCase
import Agenda.Proofs.Query.TokenCase
import Agenda.Proofs.Query.KeywordCase
import Agenda.Proofs.Evaluation.Chains
import Agenda.Proofs.Report.Alignment
