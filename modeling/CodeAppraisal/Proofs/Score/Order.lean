import CodeAppraisal.Proofs.ExactQuantity
import CodeAppraisal.Score.Prediction

/-!
This module shows that scores go with quality: where a text is as good as another in everything that
counts, its score is at least as high and its grade and verdict are no worse.
-/
namespace CodeAppraisal

open Quantity Classifier

def Rating.NoWorse (r r' : Rating) : Prop := Rating.all.idxOf r ≤ Rating.all.idxOf r'

variable {K : Type} [Field K] [LinearOrder K] [IsStrictOrderedRing K] [ElementaryFunctions K]

structure FeatureVector.NoBetter (f f' : FeatureVector K) : Prop where
  docstrings : f.hasDocstrings = true → f'.hasDocstrings = true
  typeHints : f.hasTypeHints = true → f'.hasTypeHints = true
  comments : 0 < f.numComments → 0 < f'.numComments
  mainGuard : f.hasMainGuard = true → f'.hasMainGuard = true
  naming : f.properNaming = true → f'.properNaming = true
  comprehension : f.usesComprehension = true → f'.usesComprehension = true
  longLines : 100 < f'.lineLengthAverage → 100 < f.lineLengthAverage
  noDefinitions : f'.numFunctions = 0 ∧ f'.numClasses = 0 → f.numFunctions = 0 ∧ f.numClasses = 0

structure ScoredMeasures.NoBetter (m m' : ScoredMeasures K) : Prop where
  maintainability : m.maintainabilityIndex ≤ m'.maintainabilityIndex
  complexity : m'.averageComplexity ≤ m.averageComplexity
  comments : m.commentRatio ≤ m'.commentRatio

structure ScoredPrediction.NoBetter (s s' : ScoredPrediction K) : Prop where
  score : s.qualityScore ≤ s'.qualityScore
  rating : s'.rating.NoWorse s.rating
  verdict : s.prediction = .good → s'.prediction = .good

section Points

variable {f f' : FeatureVector K} {m m' : ScoredMeasures K} {p p' : K}

theorem points_le_points {earned earned' : Bool} (h : earned = true → earned' = true) {n : K}
    (hn : 0 ≤ n) : points earned n ≤ points earned' n := by
  have hzero : (0.0 : K) = 0 := by norm_num
  cases earned with
  | false =>
    cases earned' with
    | false => exact le_refl _
    | true => exact hzero.trans_le hn
  | true => rw [h rfl]

theorem featurePoints_le (h : f.NoBetter f') : f.points ≤ f'.points := by
  have hdocstrings := points_le_points h.docstrings (n := (8.0 : K)) (by norm_num)
  have htypes := points_le_points h.typeHints (n := (8.0 : K)) (by norm_num)
  have hcomments : points (0 < f.numComments) (4.0 : K) ≤ points (0 < f'.numComments) 4.0 :=
    points_le_points (by simpa using h.comments) (by norm_num)
  have hguard := points_le_points h.mainGuard (n := (3.0 : K)) (by norm_num)
  have hnaming := points_le_points h.naming (n := (7.0 : K)) (by norm_num)
  have hcomprehension := points_le_points h.comprehension (n := (3.0 : K)) (by norm_num)
  have hlines : points (lt 100.0 f'.lineLengthAverage) (5.0 : K) ≤
      points (lt 100.0 f.lineLengthAverage) 5.0 := by
    apply points_le_points _ (by norm_num)
    have hhundred : (100.0 : K) = 100 := by norm_num
    simpa [hhundred] using h.longLines
  have hdefinitions : points (f'.numFunctions = 0 && f'.numClasses = 0) (10.0 : K) ≤
      points (f.numFunctions = 0 && f.numClasses = 0) 10.0 :=
    points_le_points (by simpa using h.noDefinitions) (by norm_num)
  unfold FeatureVector.points
  dsimp only
  linarith

theorem rawFeatureScore_le (hf : f.NoBetter f') (hp : p ≤ p') :
    rawFeatureScore f p ≤ rawFeatureScore f' p' := by
  have hpoints := featurePoints_le hf
  unfold rawFeatureScore
  linarith

theorem documentationPoints_le (hf : f.NoBetter f') (hm : m.NoBetter m') :
    documentationPoints f m.commentRatio ≤ documentationPoints f' m'.commentRatio := by
  have hdocstrings := points_le_points hf.docstrings (n := (5.0 : K)) (by norm_num)
  have htypes := points_le_points hf.typeHints (n := (5.0 : K)) (by norm_num)
  have hnaming := points_le_points hf.naming (n := (4.0 : K)) (by norm_num)
  have hcomments : points (0 < f.numComments) (2.0 : K) ≤ points (0 < f'.numComments) 2.0 :=
    points_le_points (by simpa using hf.comments) (by norm_num)
  have hratio : points (lt 0.1 m.commentRatio) (4.0 : K) ≤ points (lt 0.1 m'.commentRatio) 4.0 := by
    apply points_le_points _ (by norm_num)
    intro hlt
    simp only [lt_eq_decide, decide_eq_true_eq] at hlt ⊢
    exact hlt.trans_le hm.comments
  unfold documentationPoints
  dsimp only
  linarith

theorem rawCompositeScore_le (hf : f.NoBetter f') (hp : p ≤ p') (hm : m.NoBetter m') :
    rawCompositeScore f p m ≤ rawCompositeScore f' p' m' := by
  have hmaintainability := hm.maintainability
  have hcomplexity : atLeast 0.0 (100.0 - m.averageComplexity * 5.0) ≤
      atLeast 0.0 (100.0 - m'.averageComplexity * 5.0) := by
    rw [atLeast_eq_max, atLeast_eq_max]
    apply max_le_max_left
    linarith [hm.complexity]
  have hdocumentation : atMost 100.0 (documentationPoints f m.commentRatio * 5.0) ≤
      atMost 100.0 (documentationPoints f' m'.commentRatio * 5.0) := by
    rw [atMost_eq_min, atMost_eq_min]
    apply min_le_min_left
    linarith [documentationPoints_le hf hm]
  unfold rawCompositeScore
  linarith

end Points

section Steps

variable {x y : K}

theorem idxOf_ofScore (x : K) : Rating.all.idxOf (Rating.ofScore x) =
    [(85 : K), 70, 55, 40].countP (x < ·) := by
  have hsteps : Rating.ofScore x = if 85 ≤ x then .a else if 70 ≤ x then .b else
      if 55 ≤ x then .c else if 40 ≤ x then .d else .f := by
    have hrating : Rating.ofScore x = if 85.0 ≤ x then .a else if 70.0 ≤ x then .b else
        if 55.0 ≤ x then .c else if 40.0 ≤ x then .d else .f := by
      simp only [Rating.ofScore, le_eq_decide, decide_eq_true_eq]
    norm_num at hrating
    exact hrating
  simp only [hsteps, List.countP_cons, List.countP_nil, decide_eq_true_eq, ← not_le]
  by_cases hd : 40 ≤ x
  . by_cases hc : 55 ≤ x
    . by_cases hb : 70 ≤ x
      . by_cases ha : 85 ≤ x
        . simp [ha, hb, hc, hd, Rating.all]
        . simp [ha, hb, hc, hd, Rating.all]
      . have ha : ¬ 85 ≤ x := by linarith
        simp [ha, hb, hc, hd, Rating.all]
    . have hb : ¬ 70 ≤ x := by linarith
      have ha : ¬ 85 ≤ x := by linarith
      simp [ha, hb, hc, hd, Rating.all]
  . have hc : ¬ 55 ≤ x := by linarith
    have hb : ¬ 70 ≤ x := by linarith
    have ha : ¬ 85 ≤ x := by linarith
    simp [ha, hb, hc, hd, Rating.all]

theorem Rating.noWorse_ofScore (h : x ≤ y) :
    (Rating.ofScore y).NoWorse (Rating.ofScore x) := by
  rw [NoWorse, idxOf_ofScore, idxOf_ofScore]
  apply List.countP_mono_left
  intro step _ hstep
  simp only [decide_eq_true_eq] at hstep ⊢
  exact h.trans_lt hstep

omit [IsStrictOrderedRing K] in
theorem QualityLabel.ofScore_eq_good (h : x ≤ y) (hgood : QualityLabel.ofScore x = .good) :
    QualityLabel.ofScore y = .good := by
  unfold QualityLabel.ofScore at hgood ⊢
  split at hgood
  . next hx =>
    rw [if_pos]
    simp only [le_eq_decide, decide_eq_true_eq] at hx ⊢
    exact hx.trans h
  . cases hgood

end Steps

section Predictions

variable {f f' : FeatureVector K} {m m' : ScoredMeasures K}

theorem clampedScore_le {x y : K} (h : x ≤ y) : clamp x 0.0 100.0 ≤ clamp y 0.0 100.0 :=
  clamp_le_clamp (by norm_num) h

theorem featureScore_le {p p' : K} (hf : f.NoBetter f') (hp : p ≤ p') :
    featureScore f p ≤ featureScore f' p' :=
  clampedScore_le (rawFeatureScore_le hf hp)

theorem compositeScore_le {p p' : K} (hf : f.NoBetter f') (hp : p ≤ p') (hm : m.NoBetter m') :
    compositeScore f p m ≤ compositeScore f' p' m' :=
  clampedScore_le (rawCompositeScore_le hf hp hm)

variable [FloorRing K] [LawfulRound K] {p p' : ClassProbabilities K}

theorem noBetter_ofProbabilities {measures measures' : Option (ScoredMeasures K)}
    (h : qualityScoreOf f p.good measures ≤ qualityScoreOf f' p'.good measures') :
    (ScoredPrediction.ofProbabilities f p measures).NoBetter
      (.ofProbabilities f' p' measures') := by
  have hscore := round2_monotone h
  constructor
  case score => exact hscore
  case rating => exact Rating.noWorse_ofScore hscore
  case verdict => exact QualityLabel.ofScore_eq_good hscore

theorem scores_monotone (hf : f.NoBetter f') (hp : p.good ≤ p'.good) :
    (featureScore f p.good ≤ featureScore f' p'.good ∧
      (ScoredPrediction.ofProbabilities f p none).NoBetter (.ofProbabilities f' p' none)) ∧
    ∀ m m' : ScoredMeasures K, m.NoBetter m' →
      compositeScore f p.good m ≤ compositeScore f' p'.good m' ∧
        (ScoredPrediction.ofProbabilities f p (some m)).NoBetter
          (.ofProbabilities f' p' (some m')) := by
  constructor
  . have hscore := featureScore_le hf hp
    exact ⟨hscore, noBetter_ofProbabilities hscore⟩
  . intro m m' hm
    have hscore := compositeScore_le hf hp hm
    exact ⟨hscore, noBetter_ofProbabilities hscore⟩

theorem scores_monotone_documented :
    let f : FeatureVector ℝ := ⟨120, false, true, 0, 0, 0, false, false, false⟩
    let f' : FeatureVector ℝ := ⟨100, true, true, 2, 1, 0, false, true, true⟩
    let p : ClassProbabilities ℝ := ⟨3 / 5, 2 / 5⟩
    let p' : ClassProbabilities ℝ := ⟨1 / 5, 4 / 5⟩
    let m : ScoredMeasures ℝ := ⟨45, 12, 0⟩
    let m' : ScoredMeasures ℝ := ⟨80, 2, 1 / 5⟩
    f.NoBetter f' ∧ p.good ≤ p'.good ∧ m.NoBetter m' ∧
      featureScore f p.good ≤ featureScore f' p'.good ∧
      (ScoredPrediction.ofProbabilities f p (some m)).NoBetter
        (.ofProbabilities f' p' (some m')) := by
  intro f f' p p' m m'
  have hf : f.NoBetter f' := by
    constructor <;> simp [f, f']
  have hp : p.good ≤ p'.good := by norm_num [p, p']
  have hm : m.NoBetter m' := by
    constructor <;> norm_num [m, m']
  obtain ⟨⟨hfeatures, -⟩, hmeasures⟩ := scores_monotone hf hp
  exact ⟨hf, hp, hm, hfeatures, (hmeasures m m' hm).2⟩

end Predictions

end CodeAppraisal
