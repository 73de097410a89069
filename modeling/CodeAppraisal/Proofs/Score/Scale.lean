import CodeAppraisal.Proofs.Metrics.Maintainability
import CodeAppraisal.Proofs.Metrics.Mean
import CodeAppraisal.Proofs.Report.Consistency

/-!
This module shows that the scale of scores is wide enough: no score has to be cut to it, so each
point that a text earns or loses counts in full.
-/
namespace CodeAppraisal

open Quantity Classifier

variable {K : Type} [Field K] [LinearOrder K] [IsStrictOrderedRing K] [ElementaryFunctions K]

structure ScoredMeasures.InRange (m : ScoredMeasures K) : Prop where
  maintainability : OnScale m.maintainabilityIndex
  complexity : 0 ≤ m.averageComplexity

section Sums

variable {f : FeatureVector K} {m : ScoredMeasures K} {p : K}

theorem points_mem (earned : Bool) {n : K} (hn : 0 ≤ n) :
    0 ≤ points earned n ∧ points earned n ≤ n := by
  have hzero : (0.0 : K) = 0 := by norm_num
  cases earned with
  | false => exact ⟨hzero.symm.le, hzero.trans_le hn⟩
  | true => exact ⟨hn, le_refl n⟩

theorem featurePoints_mem (f : FeatureVector K) : 35 ≤ f.points ∧ f.points ≤ 83 := by
  have hdocstrings := points_mem f.hasDocstrings (n := (8.0 : K)) (by norm_num)
  have htypes := points_mem f.hasTypeHints (n := (8.0 : K)) (by norm_num)
  have hcomments := points_mem (0 < f.numComments) (n := (4.0 : K)) (by norm_num)
  have hguard := points_mem f.hasMainGuard (n := (3.0 : K)) (by norm_num)
  have hnaming := points_mem f.properNaming (n := (7.0 : K)) (by norm_num)
  have hcomprehension := points_mem f.usesComprehension (n := (3.0 : K)) (by norm_num)
  have hlines := points_mem (lt 100.0 f.lineLengthAverage) (n := (5.0 : K)) (by norm_num)
  have hdefinitions := points_mem (f.numFunctions = 0 && f.numClasses = 0) (n := (10.0 : K))
    (by norm_num)
  unfold FeatureVector.points
  dsimp only
  constructor <;> linarith

theorem rawFeatureScore_mem (f : FeatureVector K) (hp : 0 ≤ p ∧ p ≤ 1) :
    21 ≤ rawFeatureScore f p ∧ rawFeatureScore f p ≤ 89.8 := by
  have hpoints := featurePoints_mem f
  unfold rawFeatureScore
  constructor <;> linarith

theorem documentationPoints_mem (f : FeatureVector K) (ratio : K) :
    0 ≤ documentationPoints f ratio ∧ documentationPoints f ratio ≤ 20 := by
  have hdocstrings := points_mem f.hasDocstrings (n := (5.0 : K)) (by norm_num)
  have htypes := points_mem f.hasTypeHints (n := (5.0 : K)) (by norm_num)
  have hnaming := points_mem f.properNaming (n := (4.0 : K)) (by norm_num)
  have hcomments := points_mem (0 < f.numComments) (n := (2.0 : K)) (by norm_num)
  have hratio := points_mem (lt 0.1 ratio) (n := (4.0 : K)) (by norm_num)
  unfold documentationPoints
  dsimp only
  constructor <;> linarith

theorem onScale_rawCompositeScore (f : FeatureVector K) (hp : 0 ≤ p ∧ p ≤ 1) (hm : m.InRange) :
    OnScale (rawCompositeScore f p m) := by
  obtain ⟨⟨hindex, hindex'⟩, hcomplexity⟩ := hm
  have hsimple : 0 ≤ atLeast 0.0 (100.0 - m.averageComplexity * 5.0) ∧
      atLeast 0.0 (100.0 - m.averageComplexity * 5.0) ≤ 100 := by
    rw [atLeast_eq_max]
    constructor
    . exact le_max_of_le_left (by norm_num)
    . exact max_le (by norm_num) (by linarith)
  have hdocumented : 0 ≤ atMost 100.0 (documentationPoints f m.commentRatio * 5.0) ∧
      atMost 100.0 (documentationPoints f m.commentRatio * 5.0) ≤ 100 := by
    have hpoints := documentationPoints_mem f m.commentRatio
    rw [atMost_eq_min]
    constructor
    . exact le_min (by norm_num) (by linarith)
    . exact min_le_of_left_le (by norm_num)
  unfold rawCompositeScore
  constructor <;> linarith

theorem clamp_eq_self {x : K} (h : OnScale x) : clamp x 0.0 100.0 = x := by
  have hlo : (0.0 : K) ≤ x := by linarith [h.1]
  have hhi : x ≤ 100.0 := by linarith [h.2]
  rw [clamp_eq x (hlo.trans hhi), min_eq_left hhi, max_eq_right hlo]

theorem featureScore_eq_raw (f : FeatureVector K) (hp : 0 ≤ p ∧ p ≤ 1) :
    featureScore f p = rawFeatureScore f p := by
  apply clamp_eq_self
  obtain ⟨hlo, hhi⟩ := rawFeatureScore_mem f hp
  constructor <;> linarith

theorem compositeScore_eq_raw (f : FeatureVector K) (hp : 0 ≤ p ∧ p ≤ 1) (hm : m.InRange) :
    compositeScore f p m = rawCompositeScore f p m :=
  clamp_eq_self (onScale_rawCompositeScore f hp hm)

theorem rawFeatureScore_of_defined (hfunctions : f.numFunctions = 0) (hclasses : f.numClasses = 0)
    {functions classes : Nat} (h : 0 < functions ∨ 0 < classes) (p : K) :
    rawFeatureScore { f with numFunctions := functions, numClasses := classes } p =
      rawFeatureScore f p + 6 := by
  have hlost : (decide (f.numFunctions = 0) && decide (f.numClasses = 0)) = true := by
    simp [hfunctions, hclasses]
  have hkept : (decide (functions = 0) && decide (classes = 0)) = false := by
    rw [Bool.and_eq_false_iff, decide_eq_false_iff_not, decide_eq_false_iff_not]
    omega
  unfold rawFeatureScore FeatureVector.points
  dsimp only
  rw [hlost, hkept]
  norm_num [points]
  linarith

end Sums

theorem scores_unclamped (f : FeatureVector K) {p : K} (hp : 0 ≤ p ∧ p ≤ 1) :
    ((21 ≤ rawFeatureScore f p ∧ rawFeatureScore f p ≤ 89.8) ∧
      featureScore f p = rawFeatureScore f p) ∧
    (∀ m : ScoredMeasures K, m.InRange →
      OnScale (rawCompositeScore f p m) ∧ compositeScore f p m = rawCompositeScore f p m) ∧
    (f.numFunctions = 0 → f.numClasses = 0 → ∀ functions classes, 0 < functions ∨ 0 < classes →
      featureScore { f with numFunctions := functions, numClasses := classes } p =
        featureScore f p + 6) := by
  refine ⟨⟨rawFeatureScore_mem f hp, featureScore_eq_raw f hp⟩, ?_, ?_⟩
  . intro m hm
    exact ⟨onScale_rawCompositeScore f hp hm, compositeScore_eq_raw f hp hm⟩
  . intro hfunctions hclasses functions classes hsome
    rw [featureScore_eq_raw _ hp, featureScore_eq_raw _ hp]
    exact rawFeatureScore_of_defined hfunctions hclasses hsome p

theorem scores_unclamped_undocumented :
    let f : FeatureVector ℝ := ⟨120, false, false, 0, 0, 0, false, false, false⟩
    let m : ScoredMeasures ℝ := ⟨0, 40, 0⟩
    0 ≤ (0 : ℝ) ∧ (0 : ℝ) ≤ 1 ∧ m.InRange ∧ featureScore f 0 = 21 ∧
      compositeScore f 0 m = rawCompositeScore f 0 m ∧
      featureScore { f with numFunctions := 0, numClasses := 2 } 0 = featureScore f 0 + 6 := by
  intro f m
  have hp : (0 : ℝ) ≤ 0 ∧ (0 : ℝ) ≤ 1 := by norm_num
  have hm : m.InRange := by
    constructor <;> norm_num [m, OnScale]
  obtain ⟨⟨-, hfeatures⟩, hmeasures, hpenalty⟩ := scores_unclamped f hp
  -- this text has all that costs points and nothing that earns any, so it is at the lower end
  have hleast : rawFeatureScore f 0 = 21 := by
    norm_num [rawFeatureScore, FeatureVector.points, points, f]
  exact ⟨hp.1, hp.2, hm, hfeatures.trans hleast, (hmeasures m hm).2,
    hpenalty rfl rfl 0 2 (by decide)⟩

section Reports

variable [FloorRing K] [LawfulRound K]

theorem inRange_ofModule (thresholds : SmellThresholds) (m : Parsing.SourceModule) :
    (CodeMetrics.ofModule thresholds m : CodeMetrics K).scored.InRange := by
  constructor
  case maintainability => exact OnScale.round2 (Metrics.maintainability_mem _ _ _ _)
  case complexity =>
    have hzero := round2_intCast (K := K) 0
    rw [Int.cast_zero] at hzero
    rw [← hzero]
    exact round2_monotone (Metrics.Complexity.average_nonneg _)

def rawScoreOf (f : FeatureVector K) (p : K) : Option (ScoredMeasures K) → K
  | some m => rawCompositeScore f p m
  | none => rawFeatureScore f p

theorem overallScore_unclamped {documents : List String} {labels : List Label}
    {classifier : QualityClassifier K}
    (h : (QualityClassifier.train documents labels).run = some (.ok classifier))
    (thresholds : SmellThresholds) (extensions : List String) (code : String) :
    ∃ p, classifier.predict code = .ok p ∧
      ((Analyzer.mk classifier thresholds extensions).analyze code).overallScore =
        round2 (rawScoreOf (.ofString code) p.good
          ((MetricsRecord.ofString thresholds code).metrics?.map CodeMetrics.scored)) := by
  have htrained := QualityClassifier.trained_of_train h
  obtain ⟨p, hp⟩ := htrained.exists_predict code
  have hgood := (htrained.predict_complete hp).good_mem
  refine ⟨p, hp, ?_⟩
  unfold Analyzer.analyze AnalysisReport.ofMetrics predict MetricsRecord.ofString
  rw [hp]
  cases Parsing.SourceModule.ofString code with
  | error e => exact congrArg round2 (featureScore_eq_raw _ hgood)
  | ok m => exact congrArg round2 (compositeScore_eq_raw _ hgood (inRange_ofModule thresholds m))

end Reports

end CodeAppraisal
