import Assay.Main
import Assay.Report.Expectation
import Assay.Schedule
import Assay.Task.Schedule
import Assay.Proofs.Files.Writing
import Assay.Proofs.Task.Schedule
import Assay.Proofs.Task.AnyOrder
import Assay.Proofs.Decimal.Digits
import Assay.Proofs.Json.Words
import Assay.Proofs.Json.Records
import Assay.Proofs.Time.Calendar
import Assay.Proofs.Time.Timestamp
import Assay.Proofs.Task.Log
import Assay.Proofs.Task.Audit
import Assay.Suite.Schedule
import Assay.Proofs.Suite.Policy
import Assay.Proofs.Files.Joining
import Assay.Proofs.Suite.Isolation
import Assay.Proofs.Shape.Grammar
import Assay.Proofs.Prediction
import Assay.Proofs.Score.Keys
import Assay.Proofs.Shape.Departures
import Assay.Proofs.Score.Perfect
import Assay.Proofs.Suite.Footprint
import Assay.Proofs.Task.Answers
import Assay.Proofs.Score.Range
import Assay.Proofs.Task.FirstCompletion
import Assay.Proofs.Task.Metrics
import Assay.Proofs.Suite.Causes
import Assay.Proofs.CommandLine.Readiness
import Assay.Proofs.Task.Discovery
import Assay.Proofs.Score.Presentation
import Assay.Proofs.Task.LogFile
import Assay.Proofs.Suite.Publication
import Assay.Proofs.Report.Document
import Assay.Proofs.Score.Improvement
import Assay.Proofs.Score.Contingency
import Assay.Proofs.Score.Mean
import Assay.Proofs.Shape.Spelling
import Assay.Proofs.Shape.Blame
import Assay.Proofs.Suite.Composition
import Assay.Proofs.Suite.Rerun
import Assay.Proofs.Task.Names
import Assay.Proofs.Task.LineNumbers
import Assay.Proofs.Task.Warnings
import Assay.Proofs.Model.Completions
import Assay.Proofs.Insertion
import Assay.Proofs.Report.Columns
import Assay.Proofs.Report.Markdown
import Assay.Proofs.CommandLine.Override
import Assay.Proofs.Task.Vocabulary
import Assay.Proofs.Report.Expectation
