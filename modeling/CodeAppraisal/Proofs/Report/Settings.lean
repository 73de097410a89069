import CodeAppraisal.Report.Analysis

/-!
This module shows what the settings of an analyzer can change in its reports: which smells are
named, and whether code without any is praised. They have no part in the grade.
-/
namespace CodeAppraisal

open Quantity Classifier Parsing

variable {α β : Type}

namespace MetricsRecord

def withoutSmells : MetricsRecord α → MetricsRecord α
  | .analyzed m => .analyzed { m with codeSmells := [] }
  | .failed error message lines => .failed error message lines

def smells : MetricsRecord α → List String
  | .analyzed m => m.codeSmells
  | .failed .. => []

theorem eq_of_withoutSmells {r r' : MetricsRecord α} (h : r.withoutSmells = r'.withoutSmells)
    (hsmells : r.smells = r'.smells) : r = r' := by
  cases r with
  | analyzed m =>
    cases r' with
    | analyzed m' =>
      cases m
      cases m'
      simp_all [withoutSmells, smells]
    | failed => cases h
  | failed =>
    cases r' with
    | analyzed => cases h
    | failed => exact h

def Blind (f : MetricsRecord α → β) : Prop := ∀ r, f r.withoutSmells = f r

theorem Blind.congr {f : MetricsRecord α → β} (hf : Blind f) {r r' : MetricsRecord α}
    (h : r.withoutSmells = r'.withoutSmells) : f r = f r' := by
  rw [← hf r, h, hf]

variable [Quantity α]

def generalSuggestions : MetricsRecord α → List Suggestion
  | .analyzed m =>
    (if lt 10.0 m.averageComplexity then [.highAverageComplexity] else []) ++
    (if m.maxComplexity > 15 then [.highMaximumComplexity] else []) ++
    [.maintainability (.ofIndex m.maintainabilityIndex)] ++
    commentSuggestions m.commentRatio
  | .failed _ message _ => [.fixSyntax message]

def deservesPraise : MetricsRecord α → Bool
  | .analyzed m => lt 50.0 m.maintainabilityIndex
  | .failed .. => false

theorem blind_generalSuggestions : Blind (generalSuggestions : MetricsRecord α → _) := by
  intro r
  cases r <;> rfl

theorem blind_deservesPraise : Blind (deservesPraise : MetricsRecord α → _) := by
  intro r
  cases r <;> rfl

theorem blind_predict (classifier : QualityClassifier α) (code : String) :
    Blind fun r => predict classifier code r.metrics? := by
  intro r
  cases r <;> rfl

def smellNotes (praise : Bool) : List String → List Suggestion
  | [] => if praise then [.cleanCode] else []
  | s :: rest => .smells (s :: rest).length :: ((s :: rest).take 3).map .smell

theorem suggestions_eq (r : MetricsRecord α) :
    r.suggestions = r.generalSuggestions ++ smellNotes r.deservesPraise r.smells := by
  cases r with
  | analyzed m =>
    simp only [suggestions, CodeMetrics.suggestions, generalSuggestions, smells, deservesPraise,
      List.append_assoc]
    cases m.codeSmells <;> simp [smellSuggestions, smellNotes]
  | failed error message lines => rfl

theorem withoutSmells_ofString (thresholds thresholds' : SmellThresholds) (code : String) :
    (ofString thresholds code : MetricsRecord α).withoutSmells =
      (ofString thresholds' code).withoutSmells := by
  unfold ofString
  cases SourceModule.ofString code <;> rfl

end MetricsRecord

structure AnalysisReport.EqUpToSmells (report report' : AnalysisReport α) : Prop where
  filename_eq : report.filename = report'.filename
  prediction_eq : report.prediction = report'.prediction
  overallScore_eq : report.overallScore = report'.overallScore
  metrics_eq : report.metrics.withoutSmells = report'.metrics.withoutSmells
  suggestions_eq : ∃ (others : List String) (praise : Bool),
    report.suggestions =
      others ++ (MetricsRecord.smellNotes praise report.metrics.smells).map Suggestion.message ∧
    report'.suggestions =
      others ++ (MetricsRecord.smellNotes praise report'.metrics.smells).map Suggestion.message

theorem AnalysisReport.EqUpToSmells.eq {report report' : AnalysisReport α}
    (h : report.EqUpToSmells report') (hsmells : report.metrics.smells = report'.metrics.smells) :
    report = report' := by
  obtain ⟨others, praise, hleft, hright⟩ := h.suggestions_eq
  have hsuggestions : report.suggestions = report'.suggestions := by
    rw [hleft, hright, hsmells]
  have hmetrics := MetricsRecord.eq_of_withoutSmells h.metrics_eq hsmells
  cases report
  cases report'
  simp only [mk.injEq]
  exact ⟨h.filename_eq, hmetrics, h.prediction_eq, hsuggestions, h.overallScore_eq⟩

variable [Quantity α]

theorem AnalysisReport.eqUpToSmells_ofMetrics (classifier : QualityClassifier α) (code : String)
    {r r' : MetricsRecord α} (h : r.withoutSmells = r'.withoutSmells) :
    (ofMetrics classifier code r).EqUpToSmells (ofMetrics classifier code r') := by
  have hprediction := (MetricsRecord.blind_predict classifier code).congr h
  constructor
  case filename_eq => rfl
  case prediction_eq => exact hprediction
  case overallScore_eq => exact congrArg PredictionOutcome.qualityScore hprediction
  case metrics_eq => exact h
  case suggestions_eq =>
    refine ⟨r.generalSuggestions.map Suggestion.message, r.deservesPraise, ?_, ?_⟩
    . rw [ofMetrics, r.suggestions_eq, List.map_append]
    . rw [MetricsRecord.blind_generalSuggestions.congr h,
        MetricsRecord.blind_deservesPraise.congr h, ofMetrics, r'.suggestions_eq, List.map_append]

theorem analyze_eqUpToSmells (classifier : QualityClassifier α)
    (thresholds thresholds' : SmellThresholds) (extensions extensions' : List String)
    (code : String) :
    ((Analyzer.mk classifier thresholds extensions).analyze code).EqUpToSmells
      ((Analyzer.mk classifier thresholds' extensions').analyze code) :=
  AnalysisReport.eqUpToSmells_ofMetrics classifier code
    (MetricsRecord.withoutSmells_ofString thresholds thresholds' code)

end CodeAppraisal
