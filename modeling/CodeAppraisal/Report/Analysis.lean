import CodeAppraisal.Report.Suggestion
import CodeAppraisal.Score.Prediction

/-!
The analysis of a text: its measures, what is said of its quality, and suggestions.
-/
namespace CodeAppraisal

open Classifier

structure AnalysisReport (α : Type) where
  filename : Option String
  metrics : MetricsRecord α
  prediction : PredictionOutcome α
  suggestions : List String
  overallScore : α
  deriving DecidableEq, Repr

structure Analyzer (α : Type) where
  classifier : QualityClassifier α
  thresholds : SmellThresholds := {}
  extensions : List String := [".py"]

variable {α : Type} [Quantity α]

def AnalysisReport.ofMetrics (classifier : QualityClassifier α) (code : String)
    (metrics : MetricsRecord α) : AnalysisReport α :=
  let prediction := predict classifier code metrics.metrics?
  { filename := none
    metrics, prediction
    suggestions := metrics.suggestions.map Suggestion.message
    overallScore := prediction.qualityScore }

def Analyzer.analyze (a : Analyzer α) (code : String) : AnalysisReport α :=
  .ofMetrics a.classifier code (.ofString a.thresholds code)

end CodeAppraisal
