import CodeAppraisal.Proofs.Classifier.Training
import CodeAppraisal.Report.Analysis

/-!
This module shows that the parts of a report belong together: the measures decide which formula
gives the score, and the grade and the verdict are those of the score that is reported.
-/
namespace CodeAppraisal

open Quantity Classifier Parsing

variable {K : Type} [Field K] [LinearOrder K] [IsStrictOrderedRing K] [ElementaryFunctions K]

theorem QualityLabel.ofScore_eq_good_iff (score : K) :
    QualityLabel.ofScore score = .good ↔
      Rating.ofScore score = .a ∨ Rating.ofScore score = .b := by
  simp only [QualityLabel.ofScore, Rating.ofScore, le_eq_decide, decide_eq_true_eq]
  by_cases hgood : 70.0 ≤ score
  . by_cases hbest : 85.0 ≤ score
    . simp [hgood, hbest]
    . simp [hgood, hbest]
  . -- below the verdict's threshold the two best grades are out of reach
    have hbest : ¬ 85.0 ≤ score := by
      intro h
      apply hgood
      norm_num at h ⊢
      linarith
    simp only [hgood, hbest, ↓reduceIte]
    split
    . simp
    . split
      . simp
      . simp

def OnScale (score : K) : Prop := 0 ≤ score ∧ score ≤ 100

theorem onScale_clamp (x : K) : OnScale (clamp x 0.0 100.0) := by
  have hscale : (0.0 : K) ≤ 100.0 := by norm_num
  have hlo := le_clamp x hscale
  have hhi := clamp_le x hscale
  have hzero : (0.0 : K) = 0 := by norm_num
  have hhundred : (100.0 : K) = 100 := by norm_num
  exact ⟨hzero.symm.trans_le hlo, hhi.trans_eq hhundred⟩

theorem onScale_qualityScoreOf (f : FeatureVector K) (goodProbability : K)
    (measures : Option (ScoredMeasures K)) :
    OnScale (qualityScoreOf f goodProbability measures) := by
  cases measures with
  | none => exact onScale_clamp _
  | some m => exact onScale_clamp _

variable [FloorRing K] [LawfulRound K]

theorem OnScale.round2 {score : K} (h : OnScale score) : OnScale (round2 score) := by
  -- both ends of the scale are whole, so rounding keeps them and stays between them
  have hzero := round2_intCast (K := K) 0
  have hhundred := round2_intCast (K := K) 100
  push_cast at hzero hhundred
  constructor
  . rw [← hzero]
    exact round2_monotone h.1
  . rw [← hhundred]
    exact round2_monotone h.2

structure AnalysisReport.Consistent (report : AnalysisReport K) (thresholds : SmellThresholds)
    (code : String) (p : ClassProbabilities K) : Prop where
  unparsed : ∀ f, SourceModule.ofString code = .error f →
    report.metrics = .failed "Syntax error in code" f.message 0 ∧
      report.suggestions = ["Fix syntax errors: " ++ f.message] ∧
      report.overallScore = Quantity.round2 (featureScore (.ofString code) p.good)
  parsed : ∀ m, SourceModule.ofString code = .ok m →
    ∃ metrics, report.metrics = .analyzed metrics ∧ metrics = .ofModule thresholds m ∧
      report.overallScore =
        Quantity.round2 (compositeScore (.ofString code) p.good metrics.scored)
  overallScore_eq : report.overallScore = report.prediction.qualityScore
  onScale : OnScale report.overallScore
  rating_eq : report.prediction.rating = .ofScore report.overallScore
  good_iff : report.prediction.label = .good ↔
    report.prediction.rating = .a ∨ report.prediction.rating = .b

theorem consistent_of_probabilities {a : Analyzer K} {code : String} {p : ClassProbabilities K}
    (hp : a.classifier.predict code = .ok p) :
    (a.analyze code).Consistent a.thresholds code p := by
  unfold Analyzer.analyze AnalysisReport.ofMetrics predict
  rw [hp]
  constructor
  case unparsed =>
    intro f hf
    rw [MetricsRecord.ofString, hf]
    exact ⟨rfl, rfl, rfl⟩
  case parsed =>
    intro m hm
    rw [MetricsRecord.ofString, hm]
    exact ⟨_, rfl, rfl, rfl⟩
  case overallScore_eq => rfl
  case onScale => exact (onScale_qualityScoreOf _ _ _).round2
  case rating_eq => rfl
  case good_iff => exact QualityLabel.ofScore_eq_good_iff _

theorem analyze_consistent {documents : List String} {labels : List Label}
    {classifier : QualityClassifier K}
    (h : (QualityClassifier.train documents labels).run = some (.ok classifier))
    (thresholds : SmellThresholds) (extensions : List String) (code : String) :
    ∃ p, classifier.predict code = .ok p ∧
      ((Analyzer.mk classifier thresholds extensions).analyze code).Consistent
        thresholds code p := by
  obtain ⟨p, hp⟩ := (QualityClassifier.trained_of_train h).exists_predict code
  exact ⟨p, hp, consistent_of_probabilities hp⟩

theorem analyze_consistent_two : ∃ (classifier : QualityClassifier ℝ) (p : ClassProbabilities ℝ),
    (QualityClassifier.train ["alpha beta", "gamma"] [.bad, .good]).run = some (.ok classifier) ∧
      ((Analyzer.mk classifier {} [".py"]).analyze "gamma = 1").Consistent {} "gamma = 1" p := by
  obtain ⟨classifier, h⟩ : ∃ c : QualityClassifier ℝ,
      (QualityClassifier.train ["alpha beta", "gamma"] [.bad, .good]).run = some (.ok c) :=
    QualityClassifier.exists_train rfl (by decide +kernel) (by decide) (by decide)
  obtain ⟨p, _, hconsistent⟩ := analyze_consistent h {} [".py"] "gamma = 1"
  exact ⟨classifier, p, h, hconsistent⟩

end CodeAppraisal
