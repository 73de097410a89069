import CodeAppraisal.Proofs.Classifier.Training

/-!
This module shows how outcomes are graded: by the step of the scale that their score is on, but
where the classifier gave no answer by a grade that is not the one of the score.
-/
namespace CodeAppraisal

open Quantity Classifier

variable {α : Type} [Quantity α]

theorem Rating.ofScore_congr {x y : α} (h : ∀ step, le step x = le step y) :
    Rating.ofScore x = Rating.ofScore y := by
  simp only [Rating.ofScore, h]

namespace PredictionOutcome

inductive Made : PredictionOutcome α → Prop where
  | predicted (classifier : QualityClassifier α) (code : String)
      (metrics : Option (CodeMetrics α)) : Made (predict classifier code metrics)
  | unpredicted (reason : String) : Made (.fallback (.ofReason reason))

theorem Made.cases {o : PredictionOutcome α} (h : Made o) :
    (∃ f p measures, o = .scored (.ofProbabilities f p measures)) ∨
      ∃ reason, o = .fallback (.ofReason reason) := by
  cases h with
  | predicted classifier code metrics =>
    unfold predict
    cases classifier.predict code with
    | ok p => exact .inl ⟨_, _, _, rfl⟩
    | error e => exact .inr ⟨_, rfl⟩
  | unpredicted reason => exact .inr ⟨_, rfl⟩

theorem Made.rating_eq_ofScore {o : PredictionOutcome α} (h : Made o)
    (hscored : o.isFallback = false) : o.rating = .ofScore o.qualityScore := by
  obtain ⟨f, p, measures, rfl⟩ | ⟨reason, rfl⟩ := h.cases
  . rfl
  . cases hscored

theorem Made.neutral {o : PredictionOutcome α} (h : Made o) (hfallback : o.isFallback = true) :
    o.qualityScore = 50.0 ∧ o.rating = .c := by
  obtain ⟨f, p, measures, rfl⟩ | ⟨reason, rfl⟩ := h.cases
  . cases hfallback
  . exact ⟨rfl, rfl⟩

theorem rating_of_score :
    (∀ o : PredictionOutcome α, Made o →
      if o.isFallback then o.qualityScore = 50.0 ∧ o.rating = .c
      else o.rating = .ofScore o.qualityScore) ∧
    ∀ o o' : PredictionOutcome α, Made o → Made o' → o.isFallback = o'.isFallback →
      (∀ step, le step o.qualityScore = le step o'.qualityScore) → o.rating = o'.rating := by
  constructor
  . intro o h
    split
    . next hfallback => exact h.neutral hfallback
    . next hscored => exact h.rating_eq_ofScore (by simpa using hscored)
  . intro o o' h h' hkind hscores
    cases hfallback : o.isFallback with
    | true => rw [(h.neutral hfallback).2, (h'.neutral (hkind ▸ hfallback)).2]
    | false =>
      rw [h.rating_eq_ofScore hfallback, h'.rating_eq_ofScore (hkind ▸ hfallback)]
      exact Rating.ofScore_congr hscores

theorem rating_of_score_two : ∃ o : PredictionOutcome ℝ, Made o ∧ o.isFallback = false ∧
    o.rating = .ofScore o.qualityScore ∧
      (fallback (.ofReason "boom") : PredictionOutcome ℝ).rating =
        (fallback (.ofReason "model has not been fitted") : PredictionOutcome ℝ).rating := by
  obtain ⟨classifier, h⟩ : ∃ c : QualityClassifier ℝ,
      (QualityClassifier.train ["alpha beta", "gamma"] [.bad, .good]).run = some (.ok c) :=
    QualityClassifier.exists_train rfl (by decide +kernel) (by decide) (by decide)
  obtain ⟨p, hp⟩ := (QualityClassifier.trained_of_train h).exists_predict "gamma = 1"
  have hscored : (predict classifier "gamma = 1" none).isFallback = false := by
    simp [predict, hp, isFallback]
  have hmade := Made.predicted classifier "gamma = 1" none
  refine ⟨_, hmade, hscored, ?_, ?_⟩
  . simpa [hscored] using rating_of_score.1 _ hmade
  . exact rating_of_score.2 _ _ (.unpredicted _) (.unpredicted _) rfl fun _ => rfl

/-- The neutral grade is better than the one of the neutral score. -/
theorem exists_rating_ne_ofScore :
    ¬ ∀ o : PredictionOutcome Float, Made o → o.rating = .ofScore o.qualityScore := by
  intro h
  exact absurd (h _ (.unpredicted "boom")) (by decide)

end PredictionOutcome

end CodeAppraisal
