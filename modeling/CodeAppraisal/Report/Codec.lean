import CodeAppraisal.Json.Decode
import CodeAppraisal.Report.Analysis

/-!
Reports and their parts as JSON values. A value of a type with several forms is of the first form
that fits it.
-/
namespace CodeAppraisal

open Json

variable {α : Type} [Quantity α]

namespace SmellThresholds

def encode (t : SmellThresholds) : Json α := .object [
  ("max_function_lines", ofNat t.maxFunctionLines),
  ("max_parameters", ofNat t.maxParameters),
  ("max_nesting_depth", ofNat t.maxNestingDepth)]

def shape : Shape α := ⟨"SmellThresholds", [
  .optional "max_function_lines" decodeSize,
  .optional "max_parameters" decodeSize,
  .optional "max_nesting_depth" decodeSize]⟩

def decode : Decoder α SmellThresholds := fun j => do
  let r ← shape.read j
  let standard : SmellThresholds := {}
  return {
    maxFunctionLines := ← getD r "max_function_lines" decodeSize standard.maxFunctionLines
    maxParameters := ← getD r "max_parameters" decodeSize standard.maxParameters
    maxNestingDepth := ← getD r "max_nesting_depth" decodeSize standard.maxNestingDepth }

end SmellThresholds

namespace CodeMetrics

def encode (m : CodeMetrics α) : Json α := .object [
  ("lines_of_code", ofNat m.linesOfCode),
  ("logical_lines", ofNat m.logicalLines),
  ("source_lines", ofNat m.sourceLines),
  ("comments", ofNat m.comments),
  ("blank_lines", ofNat m.blankLines),
  ("comment_ratio", ofReal m.commentRatio),
  ("avg_complexity", ofReal m.averageComplexity),
  ("max_complexity", ofNat m.maxComplexity),
  ("maintainability_index", ofReal m.maintainabilityIndex),
  ("halstead_volume", ofReal m.halsteadVolume),
  ("halstead_difficulty", ofReal m.halsteadDifficulty),
  ("num_functions", ofNat m.numFunctions),
  ("num_classes", ofNat m.numClasses),
  ("num_imports", ofNat m.numImports),
  ("num_loops", ofNat m.numLoops),
  ("num_conditionals", ofNat m.numConditionals),
  ("code_smells", ofStrings m.codeSmells)]

def shape : Shape α := ⟨"CodeMetrics", [
  .mandatory "lines_of_code" decodeSize,
  .mandatory "logical_lines" decodeSize,
  .mandatory "source_lines" decodeSize,
  .mandatory "comments" decodeSize,
  .mandatory "blank_lines" decodeSize,
  .mandatory "comment_ratio" decodeReal,
  .mandatory "avg_complexity" decodeReal,
  .mandatory "max_complexity" decodeWord,
  .mandatory "maintainability_index" decodeReal,
  .mandatory "halstead_volume" decodeReal,
  .mandatory "halstead_difficulty" decodeReal,
  .mandatory "num_functions" decodeSize,
  .mandatory "num_classes" decodeSize,
  .mandatory "num_imports" decodeSize,
  .mandatory "num_loops" decodeSize,
  .mandatory "num_conditionals" decodeSize,
  .mandatory "code_smells" (decodeList decodeString)]⟩

def decode : Decoder α (CodeMetrics α) := fun j => do
  let r ← shape.read j
  return {
    linesOfCode := ← get r "lines_of_code" decodeSize
    logicalLines := ← get r "logical_lines" decodeSize
    sourceLines := ← get r "source_lines" decodeSize
    comments := ← get r "comments" decodeSize
    blankLines := ← get r "blank_lines" decodeSize
    commentRatio := ← get r "comment_ratio" decodeReal
    averageComplexity := ← get r "avg_complexity" decodeReal
    maxComplexity := ← get r "max_complexity" decodeWord
    maintainabilityIndex := ← get r "maintainability_index" decodeReal
    halsteadVolume := ← get r "halstead_volume" decodeReal
    halsteadDifficulty := ← get r "halstead_difficulty" decodeReal
    numFunctions := ← get r "num_functions" decodeSize
    numClasses := ← get r "num_classes" decodeSize
    numImports := ← get r "num_imports" decodeSize
    numLoops := ← get r "num_loops" decodeSize
    numConditionals := ← get r "num_conditionals" decodeSize
    codeSmells := ← get r "code_smells" (decodeList decodeString) }

end CodeMetrics

namespace MetricsRecord

def encode : MetricsRecord α → Json α
  | .analyzed m => m.encode
  | .failed error message lines => .object [
    ("error", .string error),
    ("message", .string message),
    ("lines_of_code", ofNat lines)]

def failedShape : Shape α := ⟨"MetricsRecord", [
  .mandatory "error" decodeString,
  .mandatory "message" decodeString,
  .mandatory "lines_of_code" decodeSize]⟩

def decodeFailed : Decoder α (MetricsRecord α)
  | .object fields => do
    let r ← failedShape.ofObject fields
    return .failed (← get r "error" decodeString) (← get r "message" decodeString)
      (← get r "lines_of_code" decodeSize)
  | j => .error (.invalidType j "struct MetricsRecord")

def decode : Decoder α (MetricsRecord α) := fun j =>
  match CodeMetrics.decode j with
  | .ok m => .ok (.analyzed m)
  | .error _ =>
    match decodeFailed j with
    | .ok r => .ok r
    | .error _ => .error (.noForm "MetricsRecord")

end MetricsRecord

namespace FeatureVector

def encode (f : FeatureVector α) : Json α := .object [
  ("line_length_avg", ofReal f.lineLengthAverage),
  ("has_docstrings", .bool f.hasDocstrings),
  ("has_type_hints", .bool f.hasTypeHints),
  ("num_comments", ofNat f.numComments),
  ("num_functions", ofNat f.numFunctions),
  ("num_classes", ofNat f.numClasses),
  ("has_main_guard", .bool f.hasMainGuard),
  ("uses_comprehension", .bool f.usesComprehension),
  ("proper_naming", .bool f.properNaming)]

def shape : Shape α := ⟨"FeatureVector", [
  .mandatory "line_length_avg" decodeReal,
  .mandatory "has_docstrings" decodeBool,
  .mandatory "has_type_hints" decodeBool,
  .mandatory "num_comments" decodeSize,
  .mandatory "num_functions" decodeSize,
  .mandatory "num_classes" decodeSize,
  .mandatory "has_main_guard" decodeBool,
  .mandatory "uses_comprehension" decodeBool,
  .mandatory "proper_naming" decodeBool]⟩

def decode : Decoder α (FeatureVector α) := fun j => do
  let r ← shape.read j
  return {
    lineLengthAverage := ← get r "line_length_avg" decodeReal
    hasDocstrings := ← get r "has_docstrings" decodeBool
    hasTypeHints := ← get r "has_type_hints" decodeBool
    numComments := ← get r "num_comments" decodeSize
    numFunctions := ← get r "num_functions" decodeSize
    numClasses := ← get r "num_classes" decodeSize
    hasMainGuard := ← get r "has_main_guard" decodeBool
    usesComprehension := ← get r "uses_comprehension" decodeBool
    properNaming := ← get r "proper_naming" decodeBool }

end FeatureVector

def Rating.encode (r : Rating) : Json α := .string r.name

def Rating.decode : Decoder α Rating := decodeVariant (Rating.all.map fun r => (r.name, r))

def QualityLabel.encode (l : QualityLabel) : Json α := .string l.name

def QualityLabel.decode : Decoder α QualityLabel :=
  decodeVariant (QualityLabel.all.map fun l => (l.name, l))

def Classifier.Label.decode : Decoder α Classifier.Label :=
  decodeVariant [("bad", .bad), ("good", .good)]

namespace ScoredPrediction

def encode (p : ScoredPrediction α) : Json α := .object [
  ("quality_score", ofReal p.qualityScore),
  ("prediction", p.prediction.encode),
  ("confidence", ofReal p.confidence),
  ("features", p.features.encode),
  ("rating", p.rating.encode)]

def shape : Shape α := ⟨"PredictionRecord", [
  .mandatory "quality_score" decodeReal,
  .mandatory "prediction" QualityLabel.decode,
  .mandatory "confidence" decodeReal,
  .mandatory "features" FeatureVector.decode,
  .mandatory "rating" Rating.decode]⟩

def decode : Decoder α (ScoredPrediction α) := fun j => do
  let r ← shape.read j
  return {
    qualityScore := ← get r "quality_score" decodeReal
    prediction := ← get r "prediction" QualityLabel.decode
    confidence := ← get r "confidence" decodeReal
    features := ← get r "features" FeatureVector.decode
    rating := ← get r "rating" Rating.decode }

end ScoredPrediction

namespace FallbackPrediction

def encode (p : FallbackPrediction α) : Json α := .object [
  ("quality_score", ofReal p.qualityScore),
  ("prediction", p.prediction.encode),
  ("confidence", ofReal p.confidence),
  ("error", .string p.error),
  ("rating", p.rating.encode)]

def shape : Shape α := ⟨"FallbackPrediction", [
  .mandatory "quality_score" decodeReal,
  .mandatory "prediction" QualityLabel.decode,
  .mandatory "confidence" decodeReal,
  .mandatory "error" decodeString,
  .mandatory "rating" Rating.decode]⟩

def decode : Decoder α (FallbackPrediction α) := fun j => do
  let r ← shape.read j
  return {
    qualityScore := ← get r "quality_score" decodeReal
    prediction := ← get r "prediction" QualityLabel.decode
    confidence := ← get r "confidence" decodeReal
    error := ← get r "error" decodeString
    rating := ← get r "rating" Rating.decode }

end FallbackPrediction

namespace PredictionOutcome

def encode : PredictionOutcome α → Json α
  | .scored p => p.encode
  | .fallback p => p.encode

def decode : Decoder α (PredictionOutcome α) := fun j =>
  match ScoredPrediction.decode j with
  | .ok p => .ok (.scored p)
  | .error _ =>
    match FallbackPrediction.decode j with
    | .ok p => .ok (.fallback p)
    | .error _ => .error (.noForm "PredictionOutcome")

end PredictionOutcome

namespace AnalysisReport

def encode (r : AnalysisReport α) : Json α := .object (
  (r.filename.map fun name => ("filename", .string name)).toList ++ [
  ("metrics", r.metrics.encode),
  ("ml_prediction", r.prediction.encode),
  ("suggestions", ofStrings r.suggestions),
  ("overall_score", ofReal r.overallScore)])

def shape : Shape α := ⟨"AnalysisReport", [
  .optional "filename" (decodeOption decodeString),
  .mandatory "metrics" MetricsRecord.decode,
  .mandatory "ml_prediction" PredictionOutcome.decode,
  .mandatory "suggestions" (decodeList decodeString),
  .mandatory "overall_score" decodeReal]⟩

def decode : Decoder α (AnalysisReport α) := fun j => do
  let r ← shape.read j
  return {
    filename := ← getD r "filename" (decodeOption decodeString) none
    metrics := ← get r "metrics" MetricsRecord.decode
    prediction := ← get r "ml_prediction" PredictionOutcome.decode
    suggestions := ← get r "suggestions" (decodeList decodeString)
    overallScore := ← get r "overall_score" decodeReal }

end AnalysisReport

end CodeAppraisal
