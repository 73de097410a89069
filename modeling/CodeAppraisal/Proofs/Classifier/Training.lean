import CodeAppraisal.Proofs.Classifier.ForestSession
import CodeAppraisal.Proofs.Classifier.VectorizerSession
import CodeAppraisal.Score.Prediction

/-!
This module shows that a trained classifier has an answer to every text, and that in exact
arithmetic the answer is a distribution.
-/
namespace CodeAppraisal.Classifier

open Quantity

theorem Fitting.result_eq_pure_iff {m : Type → Type} [Monad m] [LawfulMonad m] [GivesValues m]
    {σ β : Type} {step : Fitting m σ β} {s s' : σ} {b : β} :
    step.result s = pure (b, s') ↔ step.on s = pure (.ok b, s') := by
  constructor
  . intro h
    obtain ⟨⟨answer, s''⟩, hon, h⟩ := GivesValues.bind_eq_pure (m := m) h
    rw [hon]
    cases answer with
    | error e => cases GivesValues.pure_inj (m := m) h
    | ok b' =>
      cases GivesValues.pure_inj (m := m) h
      rfl
  . intro h
    unfold result
    rw [h, pure_bind]
    rfl

namespace Forest

variable {K : Type} [Field K] [LinearOrder K] [IsStrictOrderedRing K] [ElementaryFunctions K]
variable {rows : List (Array K)} {labels : List Nat} {forest : Forest K}

omit [IsStrictOrderedRing K] in
theorem Fitted.label_lt (h : forest.Fitted rows labels) {s : Sample K}
    (hs : s ∈ samplesOf rows labels) : s.label < forest.classes := by
  rw [samplesOf, List.mem_toArray, ← List.map_uncurry_zip_eq_zipWith, List.mem_map] at hs
  obtain ⟨⟨row, label⟩, hzip, rfl⟩ := hs
  obtain ⟨top, _, hle, hclasses⟩ := growthOf_classes h.fits.labels_ne_nil rows
  rw [h.classes, hclasses]
  exact Nat.lt_succ_of_le (hle label (List.of_mem_zip hzip).2)

theorem Fitted.tree_shares (h : forest.Fitted rows labels) (row : Array K) :
    ∀ t ∈ forest.trees, Shares forest.classes 1 (t.predict row) := by
  intro t ht
  obtain ⟨seed, _, htree⟩ := exists_of_mem_mapM h.trees ht
  obtain ⟨chosen, hgrown, hmem, hne⟩ := grown_of_treeOf htree
  have hsize : 0 < (samplesOf rows labels).size := by
    have := List.length_pos_of_ne_nil h.fits.nonempty
    rw [samplesOf, List.size_toArray, List.length_zipWith, ← h.fits.length_eq]
    omega
  rw [h.classes]
  apply hgrown.shares (hne hsize)
  intro s hs
  rw [← h.classes]
  exact h.label_lt (hmem s hs)

theorem Fitted.exists_predict (h : forest.Fitted rows labels) (hsize : 0 < forest.size)
    {row : Array K} (hrow : row.size = forest.features) :
    ∃ d, forest.predict row = .ok d ∧ Shares forest.classes 1 d := by
  refine ⟨_, predict_of_size_eq (h.trees_ne_nil hsize) hrow, ?_⟩
  rw [← List.length_map]
  apply shares_mean
  . simpa using h.trees_ne_nil hsize
  . intro d hd
    obtain ⟨t, ht, rfl⟩ := List.mem_map.mp hd
    exact h.tree_shares row t ht

end Forest

namespace QualityClassifier

variable {α : Type} [Quantity α]

theorem predict_eq_of_distribution {c : QualityClassifier α} {code : String} {row d : List α}
    (hrow : c.vectorizer.transform code = .ok row) (hd : c.forest.predict row.toArray = .ok d) :
    c.predict code = .ok ⟨d.getD Label.bad.index 0.0, d.getD Label.good.index 0.0⟩ := by
  simp only [predict, hrow, hd, bind, Except.bind]
  rfl

structure Trained (documents : List String) (labels : List Label) (c : QualityClassifier α) :
    Prop where
  documents_ne_nil : documents ≠ []
  size_pos : 0 < c.forest.size
  fitted : ∃ rows, documents.mapM c.vectorizer.transform = .ok rows ∧
    c.forest.Fitted (rows.map List.toArray) (labels.map Label.index)

theorem trained_of_train {documents : List String} {labels : List Label} {c : QualityClassifier α}
    (h : (train documents labels).run = some (.ok c)) : Trained documents labels c := by
  change train documents labels = pure c at h
  unfold train at h
  split at h
  . cases h
  . obtain ⟨⟨rows, vectorizer⟩, hvectorizer, h⟩ := GivesValues.bind_eq_pure h
    obtain ⟨⟨_, forest⟩, hforest, h⟩ := GivesValues.bind_eq_pure h
    cases GivesValues.pure_inj h
    rw [Fitting.result_eq_pure_iff] at hvectorizer hforest
    obtain ⟨⟨d, hd, _⟩, _, hrows⟩ := Vectorizer.fitTransform_on_ok_iff.mp hvectorizer
    obtain ⟨hfitted, hsize, _⟩ := Forest.fitted_of_fit hforest
    refine ⟨List.ne_nil_of_mem hd, ?_, rows, hrows, hfitted⟩
    rw [hsize]
    exact Nat.zero_lt_succ 49

namespace Trained

variable {documents : List String} {labels : List Label} {c : QualityClassifier α}

theorem vectorizer_size_ne (h : Trained documents labels c) : c.vectorizer.size ≠ 0 := by
  intro hzero
  obtain ⟨rows, hrows, _⟩ := h.fitted
  obtain ⟨d, hd⟩ := List.exists_mem_of_ne_nil _ h.documents_ne_nil
  have hmem : c.vectorizer.transform d ∈ rows.map pure := by
    rw [← mapM_eq_pure_iff.mp hrows]
    exact List.mem_map_of_mem hd
  obtain ⟨row, _, hrow⟩ := List.mem_map.mp hmem
  rw [Vectorizer.transform_of_size_eq hzero] at hrow
  cases hrow

theorem features_eq (h : Trained documents labels c) :
    c.forest.features = c.vectorizer.size := by
  obtain ⟨rows, hrows, hfitted⟩ := h.fitted
  obtain ⟨row, hrow⟩ := List.exists_mem_of_ne_nil _ hfitted.fits.nonempty
  obtain ⟨values, hvalues, rfl⟩ := List.mem_map.mp hrow
  rw [hfitted.features, hfitted.fits.growthOf_features hrow, List.size_toArray]
  exact (Vectorizer.rows_of_transform hrows).2 values hvalues

theorem classes_eq (h : Trained documents labels c) : c.forest.classes = 2 := by
  obtain ⟨rows, _, hfitted⟩ := h.fitted
  obtain ⟨top, htop, hle, hclasses⟩ :=
    Forest.growthOf_classes hfitted.fits.labels_ne_nil (rows.map List.toArray)
  obtain ⟨l, hl, l', hl', hne⟩ := hfitted.fits.two_labels
  have hle_one : ∀ n ∈ labels.map Label.index, n ≤ 1 := by
    intro n hn
    obtain ⟨label, _, rfl⟩ := List.mem_map.mp hn
    cases label <;> decide
  -- two labels that differ are 0 and 1, and the greatest label is one of them
  have := hle_one top htop
  have := hle_one l hl
  have := hle_one l' hl'
  have := hle l hl
  have := hle l' hl'
  rw [hfitted.classes, hclasses]
  omega

theorem trees_ne_nil (h : Trained documents labels c) : c.forest.trees ≠ [] := by
  obtain ⟨rows, _, hfitted⟩ := h.fitted
  exact hfitted.trees_ne_nil h.size_pos

theorem exists_row (h : Trained documents labels c) (code : String) :
    ∃ row, c.vectorizer.transform code = .ok row ∧ row.toArray.size = c.forest.features := by
  obtain ⟨row, hrow, hlength⟩ := Vectorizer.transform_of_size_ne h.vectorizer_size_ne code
  exact ⟨row, hrow, by rw [h.features_eq, List.size_toArray, hlength]⟩

theorem exists_predict (h : Trained documents labels c) (code : String) :
    ∃ p, c.predict code = .ok p := by
  obtain ⟨row, hrow, hsize⟩ := h.exists_row code
  exact ⟨_, predict_eq_of_distribution hrow (Forest.predict_of_size_eq h.trees_ne_nil hsize)⟩

end Trained

end QualityClassifier

structure ClassProbabilities.Complete {K : Type} [Field K] [LinearOrder K]
    [ElementaryFunctions K] (p : ClassProbabilities K) : Prop where
  bad_mem : 0 ≤ p.bad ∧ p.bad ≤ 1
  good_mem : 0 ≤ p.good ∧ p.good ≤ 1
  sum_eq : p.bad + p.good = 1
  confidence_mem : 50 ≤ p.confidence ∧ p.confidence ≤ 100

section Exact

variable {K : Type} [Field K] [LinearOrder K] [IsStrictOrderedRing K] [ElementaryFunctions K]

theorem ClassProbabilities.complete_of_sum {p : ClassProbabilities K} (hbad : 0 ≤ p.bad)
    (hgood : 0 ≤ p.good) (hsum : p.bad + p.good = 1) : p.Complete := by
  have hbad' : p.bad ≤ 1 := by linarith
  have hgood' : p.good ≤ 1 := by linarith
  refine ⟨⟨hbad, hbad'⟩, ⟨hgood, hgood'⟩, hsum, ?_⟩
  unfold confidence
  rw [atLeast_eq_max]
  have hmax : max p.bad p.good ≤ 1 := max_le hbad' hgood'
  have hbadmax := le_max_left p.bad p.good
  have hgoodmax := le_max_right p.bad p.good
  norm_num
  constructor
  . linarith
  . exact ⟨hbad', hgood'⟩

theorem QualityClassifier.Trained.predict_complete {documents : List String} {labels : List Label}
    {c : QualityClassifier K} (h : Trained documents labels c) {code : String}
    {p : ClassProbabilities K} (hp : c.predict code = .ok p) : p.Complete := by
  obtain ⟨row, hrow, hsize⟩ := h.exists_row code
  obtain ⟨rows, _, hfitted⟩ := h.fitted
  obtain ⟨d, hd, hshares⟩ := hfitted.exists_predict h.size_pos hsize
  rw [h.classes_eq] at hshares
  obtain ⟨bad, good, rfl⟩ := List.length_eq_two.mp hshares.length_eq
  have hsum : bad + good = 1 := by simpa using hshares.sum_eq
  rw [predict_eq_of_distribution hrow hd] at hp
  injection hp with hp
  rw [← hp]
  apply ClassProbabilities.complete_of_sum
  . exact hshares.nonneg bad (by simp)
  . exact hshares.nonneg good (by simp)
  . exact hsum

omit [Field K] [LinearOrder K] [IsStrictOrderedRing K] [ElementaryFunctions K] in
theorem fits_of_rows {rows : List (List K)} {labels : List Label} {n : Nat} (hne : rows ≠ [])
    (hlength : rows.length = labels.length) (hrows : ∀ row ∈ rows, row.length = n)
    (hbad : .bad ∈ labels) (hgood : .good ∈ labels) :
    Forest.Fits (rows.map List.toArray) (labels.map Label.index) := by
  constructor
  . simpa using hne
  . rw [List.length_map, List.length_map, hlength]
  . simp only [List.forall_mem_map, List.size_toArray]
    intro row hrow row' hrow'
    rw [hrows row hrow, hrows row' hrow']
  . exact ⟨_, List.mem_map_of_mem hbad, _, List.mem_map_of_mem hgood, by decide⟩

theorem QualityClassifier.exists_train {documents : List String} {labels : List Label}
    (hlength : documents.length = labels.length)
    (hlearnable : Vectorizer.Learnable (RunLengths.between 1 2) documents)
    (hbad : .bad ∈ labels) (hgood : .good ∈ labels) :
    ∃ c : QualityClassifier K, (train documents labels).run = some (.ok c) := by
  have hfresh : (freshVectorizer : Vectorizer K).lengths = RunLengths.between 1 2 := rfl
  rw [← hfresh] at hlearnable
  have hsize : ((freshVectorizer : Vectorizer K).learned documents).size ≠ 0 :=
    Vectorizer.size_learned_ne hlearnable (by simp [freshVectorizer, Vectorizer.new])
  obtain ⟨rows, hrows⟩ : ∃ rows,
      documents.mapM ((freshVectorizer : Vectorizer K).learned documents).transform = .ok rows :=
    exists_mapM fun d _ => (Vectorizer.transform_of_size_ne hsize d).imp fun _ h => h.1
  obtain ⟨hcount, hwidth⟩ := Vectorizer.rows_of_transform hrows
  have hne : rows ≠ [] := by
    obtain ⟨d, hd, _⟩ := hlearnable
    have := List.length_pos_of_mem hd
    exact List.ne_nil_of_length_pos (by omega)
  have hfits := fits_of_rows hne (hcount.trans hlength) hwidth hbad hgood
  obtain ⟨forest, hforest⟩ := freshForest.fitSucceeds_exact hfits
  have hvectorizer := Fitting.result_eq_pure_iff (m := Option).mpr
    (Vectorizer.fitTransform_on_ok_iff.mpr ⟨hlearnable, rfl, hrows⟩)
  have hforest := Fitting.result_eq_pure_iff (m := Option).mpr hforest
  refine ⟨⟨freshVectorizer.learned documents, forest⟩, ?_⟩
  simp only [train, hlength, ne_eq, not_true_eq_false, ↓reduceIte, hvectorizer, pure_bind, hforest]
  rfl

end Exact

theorem answer_of_train :
    (∀ {α : Type} [Quantity α] {documents : List String} {labels : List Label}
      {c : QualityClassifier α}, (QualityClassifier.train documents labels).run = some (.ok c) →
      ∀ code, (∃ p, c.predict code = .ok p) ∧
        ∀ metrics, (CodeAppraisal.predict c code metrics).isFallback = false) ∧
    ∀ {K : Type} [Field K] [LinearOrder K] [IsStrictOrderedRing K] [ElementaryFunctions K]
      {documents : List String} {labels : List Label} {c : QualityClassifier K},
      (QualityClassifier.train documents labels).run = some (.ok c) →
      ∀ code p, c.predict code = .ok p → p.Complete := by
  constructor
  . intro α _ documents labels c h code
    obtain ⟨p, hp⟩ := (QualityClassifier.trained_of_train h).exists_predict code
    refine ⟨⟨p, hp⟩, ?_⟩
    intro metrics
    simp only [CodeAppraisal.predict, hp, PredictionOutcome.isFallback]
  . intro K _ _ _ _ documents labels c h code p hp
    exact (QualityClassifier.trained_of_train h).predict_complete hp

theorem answer_of_train_two : ∃ (c : QualityClassifier ℝ) (p : ClassProbabilities ℝ),
    (QualityClassifier.train ["alpha beta", "gamma"] [.bad, .good]).run = some (.ok c) ∧
      c.predict "gamma delta" = .ok p ∧ p.Complete := by
  obtain ⟨c, hc⟩ : ∃ c : QualityClassifier ℝ,
      (QualityClassifier.train ["alpha beta", "gamma"] [.bad, .good]).run = some (.ok c) :=
    QualityClassifier.exists_train rfl (by decide +kernel) (by decide) (by decide)
  obtain ⟨p, hp⟩ := (answer_of_train.1 hc "gamma delta").1
  exact ⟨c, p, hc, hp, answer_of_train.2 hc _ _ hp⟩

end CodeAppraisal.Classifier
