import CodeAppraisal.Proofs.Json.Record
import CodeAppraisal.Report.Codec

/-!
This module shows that a report and its parts are read back from their JSON values as they were. A
value of a type with two forms gets back the form it had, for no form has all fields of the other.
-/
namespace CodeAppraisal

open Json Quantity

variable {α : Type}

@[simp]
theorem Rating.decode_encode_iff {r r' : Rating} :
    (decode r.encode : Except (DecodeError α) Rating) = .ok r' ↔ r' = r := by
  apply decodeVariant_string_iff
  cases r <;> rfl

@[simp]
theorem QualityLabel.decode_encode_iff {l l' : QualityLabel} :
    (decode l.encode : Except (DecodeError α) QualityLabel) = .ok l' ↔ l' = l := by
  apply decodeVariant_string_iff
  cases l <;> rfl

theorem MetricsRecord.nodup_failedShape : ((failedShape : Shape α).fields.map (·.name)).Nodup := by
  simp [failedShape]

variable [Quantity α]

namespace CodeMetrics

def Writable (m : CodeMetrics α) : Prop :=
  (∀ n ∈ [m.linesOfCode, m.logicalLines, m.sourceLines, m.comments, m.blankLines], n < 2 ^ 64) ∧
  (∀ x ∈ [m.commentRatio, m.averageComplexity], isFinite x = true) ∧
  m.maxComplexity < 2 ^ 32 ∧
  (∀ x ∈ [m.maintainabilityIndex, m.halsteadVolume, m.halsteadDifficulty], isFinite x = true) ∧
  ∀ n ∈ [m.numFunctions, m.numClasses, m.numImports, m.numLoops, m.numConditionals], n < 2 ^ 64

theorem nodup_shape : ((shape : Shape α).fields.map (·.name)).Nodup := by
  simp [shape]

@[simp]
theorem roundTrips : RoundTrips (encode : CodeMetrics α → _) decode Writable := by
  apply Shape.roundTrips nodup_shape
  case hrequired =>
    intro m
    simp [shape]
  case htakes =>
    intro m
    simp [shape, Writable, and_assoc]
  case hbuild =>
    intro m h
    simp_all [Writable, bind_eq_ok_iff, pure, Except.pure]

end CodeMetrics

namespace MetricsRecord

def Writable : MetricsRecord α → Prop
  | .analyzed m => m.Writable
  | .failed _ _ lines => lines < 2 ^ 64

theorem decode_eq_ok_iff {j : Json α} {r : MetricsRecord α} :
    decode j = .ok r ↔ (∃ m, CodeMetrics.decode j = .ok m ∧ r = .analyzed m) ∨
      (∀ m, CodeMetrics.decode j ≠ .ok m) ∧ decodeFailed j = .ok r := by
  unfold decode
  cases CodeMetrics.decode j with
  | ok m => simp [eq_comm]
  | error e => cases decodeFailed j <;> simp

theorem decodeFailed_metrics_ne_ok (m : CodeMetrics α) (r : MetricsRecord α) :
    decodeFailed m.encode ≠ .ok r := by
  apply Shape.read_bind_ne_ok nodup_failedShape
  simp [failedShape]

theorem decode_failed_ne_ok (error message : String) (lines : Nat) (m : CodeMetrics α) :
    CodeMetrics.decode (encode (.failed error message lines)) ≠ .ok m := by
  apply Shape.read_bind_ne_ok CodeMetrics.nodup_shape
  simp [CodeMetrics.shape]

theorem decodeFailed_failed_iff {error message : String} {lines : Nat} {r : MetricsRecord α} :
    decodeFailed (encode (.failed error message lines)) = .ok r ↔
      lines < 2 ^ 64 ∧ r = .failed error message lines := by
  change failedShape.ofObject _ >>= _ = _ ↔ _
  simp only [bind_eq_ok_iff, Shape.ofObject_eq_ok_iff nodup_failedShape]
  simp [failedShape, pure, Except.pure, @eq_comm _ r]

@[simp]
theorem roundTrips : RoundTrips (encode : MetricsRecord α → _) decode Writable := by
  intro r r'
  rw [decode_eq_ok_iff]
  cases r with
  | analyzed m => simp [encode, decodeFailed_metrics_ne_ok, Writable]
  | failed error message lines =>
    simp [decode_failed_ne_ok, decodeFailed_failed_iff, Writable]

end MetricsRecord

namespace FeatureVector

def Writable (f : FeatureVector α) : Prop :=
  isFinite f.lineLengthAverage = true ∧
  ∀ n ∈ [f.numComments, f.numFunctions, f.numClasses], n < 2 ^ 64

theorem nodup_shape : ((shape : Shape α).fields.map (·.name)).Nodup := by
  simp [shape]

@[simp]
theorem roundTrips : RoundTrips (encode : FeatureVector α → _) decode Writable := by
  apply Shape.roundTrips nodup_shape
  case hrequired =>
    intro f
    simp [shape]
  case htakes =>
    intro f
    simp [shape, Writable]
  case hbuild =>
    intro f h
    simp_all [Writable, bind_eq_ok_iff, pure, Except.pure]

end FeatureVector

namespace ScoredPrediction

def Writable (p : ScoredPrediction α) : Prop :=
  (∀ x ∈ [p.qualityScore, p.confidence], isFinite x = true) ∧ p.features.Writable

theorem nodup_shape : ((shape : Shape α).fields.map (·.name)).Nodup := by
  simp [shape]

@[simp]
theorem roundTrips : RoundTrips (encode : ScoredPrediction α → _) decode Writable := by
  apply Shape.roundTrips nodup_shape
  case hrequired =>
    intro p
    simp [shape]
  case htakes =>
    intro p
    simp [shape, Writable, and_assoc]
  case hbuild =>
    intro p h
    simp_all [Writable, bind_eq_ok_iff, pure, Except.pure]

end ScoredPrediction

namespace FallbackPrediction

def Writable (p : FallbackPrediction α) : Prop :=
  ∀ x ∈ [p.qualityScore, p.confidence], isFinite x = true

theorem nodup_shape : ((shape : Shape α).fields.map (·.name)).Nodup := by
  simp [shape]

@[simp]
theorem roundTrips : RoundTrips (encode : FallbackPrediction α → _) decode Writable := by
  apply Shape.roundTrips nodup_shape
  case hrequired =>
    intro p
    simp [shape]
  case htakes =>
    intro p
    simp [shape, Writable]
  case hbuild =>
    intro p h
    simp_all [Writable, bind_eq_ok_iff, pure, Except.pure]

end FallbackPrediction

namespace PredictionOutcome

def Writable : PredictionOutcome α → Prop
  | .scored p => p.Writable
  | .fallback p => p.Writable

theorem decode_eq_ok_iff {j : Json α} {p : PredictionOutcome α} :
    decode j = .ok p ↔ (∃ q, ScoredPrediction.decode j = .ok q ∧ p = .scored q) ∨
      (∀ q, ScoredPrediction.decode j ≠ .ok q) ∧
        ∃ q, FallbackPrediction.decode j = .ok q ∧ p = .fallback q := by
  unfold decode
  cases ScoredPrediction.decode j with
  | ok q => simp [eq_comm]
  | error e => cases FallbackPrediction.decode j <;> simp [eq_comm]

theorem decode_scored_ne_ok (p : ScoredPrediction α) (q : FallbackPrediction α) :
    FallbackPrediction.decode p.encode ≠ .ok q := by
  apply Shape.read_bind_ne_ok FallbackPrediction.nodup_shape
  simp [FallbackPrediction.shape]

theorem decode_fallback_ne_ok (p : FallbackPrediction α) (q : ScoredPrediction α) :
    ScoredPrediction.decode p.encode ≠ .ok q := by
  apply Shape.read_bind_ne_ok ScoredPrediction.nodup_shape
  simp [ScoredPrediction.shape]

@[simp]
theorem roundTrips : RoundTrips (encode : PredictionOutcome α → _) decode Writable := by
  intro p p'
  rw [decode_eq_ok_iff]
  cases p with
  | scored p => simp [encode, decode_scored_ne_ok, Writable]
  | fallback p => simp [encode, decode_fallback_ne_ok, Writable]

end PredictionOutcome

namespace AnalysisReport

def Writable (r : AnalysisReport α) : Prop :=
  r.metrics.Writable ∧ r.prediction.Writable ∧ isFinite r.overallScore = true

theorem nodup_shape : ((shape : Shape α).fields.map (·.name)).Nodup := by
  simp [shape]

theorem roundTrips : RoundTrips (encode : AnalysisReport α → _) decode Writable := by
  apply Shape.roundTrips nodup_shape
  case hrequired =>
    intro r
    simp [shape]
  case htakes =>
    intro r
    cases r.filename <;> simp [shape, Writable]
  case hbuild =>
    rintro ⟨filename, metrics, prediction, suggestions, overallScore⟩ h
    cases filename <;> simp_all [Writable, bind_eq_ok_iff, pure, Except.pure]

end AnalysisReport

theorem records_roundTrip :
    RoundTrips (MetricsRecord.encode : MetricsRecord α → _) MetricsRecord.decode
        MetricsRecord.Writable ∧
      RoundTrips (PredictionOutcome.encode : PredictionOutcome α → _) PredictionOutcome.decode
        PredictionOutcome.Writable ∧
      RoundTrips (AnalysisReport.encode : AnalysisReport α → _) AnalysisReport.decode
        AnalysisReport.Writable :=
  ⟨MetricsRecord.roundTrips, PredictionOutcome.roundTrips, AnalysisReport.roundTrips⟩

theorem records_roundTrip_fallback :
    let report : AnalysisReport Float :=
      { filename := some "a.py"
        metrics := .syntaxError "invalid syntax (<string>, line 1)"
        prediction := .fallback (.ofReason "model has not been fitted")
        suggestions := ["Fix syntax errors: invalid syntax (<string>, line 1)"]
        overallScore := 50.0 }
    AnalysisReport.decode report.encode = .ok report := by
  have hscore : isFinite (50.0 : Float) = true := by decide +kernel
  have hconfidence : isFinite (0.0 : Float) = true := by decide +kernel
  rw [records_roundTrip.2.2]
  refine ⟨⟨?_, ?_, hscore⟩, rfl⟩
  . exact (by decide : 0 < 2 ^ 64)
  . simp [PredictionOutcome.Writable, FallbackPrediction.Writable, FallbackPrediction.ofReason,
      hscore, hconfidence]

end CodeAppraisal
