import CodeAppraisal.Main
import CodeAppraisal.Proofs.Report.Consistency
import CodeAppraisal.Service.Respond
import CodeAppraisal.Proofs.Classifier.Recall
import CodeAppraisal.Proofs.Metrics.Scopes
import CodeAppraisal.Proofs.Binary64.Operations
import CodeAppraisal.Proofs.Classifier.Midpoint
import CodeAppraisal.Proofs.Metrics.Accounting
import CodeAppraisal.Proofs.Metrics.Composition
import CodeAppraisal.Proofs.Metrics.Coherence
import CodeAppraisal.Proofs.Json.Record
import CodeAppraisal.Proofs.Report.RoundTrip
import CodeAppraisal.Proofs.Report.Settings
import CodeAppraisal.Proofs.Report.Upload
import CodeAppraisal.Proofs.Score.Grade
import CodeAppraisal.Proofs.Service.FirstFile
import CodeAppraisal.Proofs.Classifier.Counters
import CodeAppraisal.Proofs.Classifier.Ranking
import CodeAppraisal.Proofs.Classifier.Readiness
import CodeAppraisal.Proofs.Classifier.DocumentOrder
import CodeAppraisal.Proofs.Classifier.UnitRows
import CodeAppraisal.Proofs.Classifier.Terms
import CodeAppraisal.Proofs.Smell.Desugaring
import CodeAppraisal.Proofs.Metrics.Mean
import CodeAppraisal.Proofs.Metrics.CommentLines
import CodeAppraisal.Proofs.Smell.CodeSpan
import CodeAppraisal.Proofs.Smell.ParameterLists
import CodeAppraisal.Proofs.Smell.Reports
import CodeAppraisal.Proofs.Smell.MagicNumbers
import CodeAppraisal.Proofs.Metrics.Maintainability
import CodeAppraisal.Proofs.Score.Order
import CodeAppraisal.Proofs.Score.Scale
import CodeAppraisal.Proofs.Report.Suggestions
import CodeAppraisal.Proofs.Classifier.Ensemble
import CodeAppraisal.Proofs.Config.Overrides
import CodeAppraisal.Proofs.Parsing.FirstFault
import CodeAppraisal.Proofs.Score.Naming
