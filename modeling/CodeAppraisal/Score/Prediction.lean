import CodeAppraisal.Classifier.Model
import CodeAppraisal.Report.Record
import CodeAppraisal.Score.Formula
import CodeAppraisal.Score.Rating

/-!
What is said of the quality of a text.
-/
namespace CodeAppraisal

open Quantity Classifier

structure ScoredPrediction (α : Type) where
  qualityScore : α
  prediction : QualityLabel
  confidence : α
  features : FeatureVector α
  rating : Rating
  deriving DecidableEq, Repr

structure FallbackPrediction (α : Type) where
  qualityScore : α
  prediction : QualityLabel
  confidence : α
  error : String
  rating : Rating
  deriving DecidableEq, Repr

inductive PredictionOutcome (α : Type) where
  | scored (prediction : ScoredPrediction α)
  | fallback (prediction : FallbackPrediction α)
  deriving DecidableEq, Repr

namespace PredictionOutcome

variable {α : Type}

def qualityScore : PredictionOutcome α → α
  | .scored p => p.qualityScore
  | .fallback p => p.qualityScore

def rating : PredictionOutcome α → Rating
  | .scored p => p.rating
  | .fallback p => p.rating

def label : PredictionOutcome α → QualityLabel
  | .scored p => p.prediction
  | .fallback p => p.prediction

def confidence : PredictionOutcome α → α
  | .scored p => p.confidence
  | .fallback p => p.confidence

def isFallback : PredictionOutcome α → Bool
  | .scored _ => false
  | .fallback _ => true

end PredictionOutcome

variable {α : Type} [Quantity α]

def FallbackPrediction.ofReason (reason : String) : FallbackPrediction α where
  qualityScore := 50.0
  prediction := .unknown
  confidence := 0.0
  error := reason
  rating := .c

def CodeMetrics.scored (m : CodeMetrics α) : ScoredMeasures α :=
  ⟨m.maintainabilityIndex, m.averageComplexity, m.commentRatio⟩

def qualityScoreOf (f : FeatureVector α) (goodProbability : α) : Option (ScoredMeasures α) → α
  | some m => compositeScore f goodProbability m
  | none => featureScore f goodProbability

def ScoredPrediction.ofProbabilities (f : FeatureVector α) (p : ClassProbabilities α)
    (measures : Option (ScoredMeasures α)) : ScoredPrediction α :=
  let score := round2 (qualityScoreOf f p.good measures)
  { qualityScore := score
    prediction := .ofScore score
    confidence := round2 p.confidence
    features := f
    rating := .ofScore score }

def predict (classifier : QualityClassifier α) (code : String)
    (metrics : Option (CodeMetrics α)) : PredictionOutcome α :=
  match classifier.predict code with
  | .ok p => .scored (.ofProbabilities (.ofString code) p (metrics.map CodeMetrics.scored))
  | .error e => .fallback (.ofReason e.message)

end CodeAppraisal
