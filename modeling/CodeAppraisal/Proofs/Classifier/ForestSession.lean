import CodeAppraisal.Proofs.Classifier.Midpoint
import CodeAppraisal.Proofs.Classifier.Steps
import CodeAppraisal.Proofs.Traversal

/-!
This module shows what a forest answers after any run of fits and predictions: it is the forest of
the last fit that succeeded, whatever failed or succeeded around that one.
-/
namespace CodeAppraisal.Classifier

open Quantity DecisionTree

variable {α : Type}

namespace Forest

structure Fits (rows : List (Array α)) (labels : List Nat) : Prop where
  nonempty : rows ≠ []
  length_eq : rows.length = labels.length
  size_eq : ∀ row ∈ rows, ∀ row' ∈ rows, row.size = row'.size
  two_labels : ∃ l ∈ labels, ∃ l' ∈ labels, l ≠ l'

inductive Refusal : List (Array α) → List Nat → ClassifierError → Prop where
  | empty {labels : List Nat} : Refusal [] labels .emptyTrainingSet
  | lengths {rows : List (Array α)} {labels : List Nat} (hrows : rows ≠ [])
      (hlength : rows.length ≠ labels.length) :
      Refusal rows labels (.lengthMismatch rows.length labels.length)
  | dimensions {first row : Array α} {before after : List (Array α)} {labels : List Nat}
      (hlength : (first :: before ++ row :: after).length = labels.length)
      (hbefore : ∀ r ∈ before, r.size = first.size) (hrow : row.size ≠ first.size) :
      Refusal (first :: before ++ row :: after) labels (.dimensionMismatch first.size row.size)
  | labels {first : Array α} {rest : List (Array α)} {labels : List Nat}
      (hlength : (first :: rest).length = labels.length)
      (hrest : ∀ r ∈ rest, r.size = first.size) (hlabels : ∀ l ∈ labels, ∀ l' ∈ labels, l = l') :
      Refusal (first :: rest) labels .singleClass

theorem length_eraseDups_lt_two_iff (labels : List Nat) :
    labels.eraseDups.length < 2 ↔ ∀ l ∈ labels, ∀ l' ∈ labels, l = l' := by
  cases labels with
  | nil => simp
  | cons first rest =>
    rw [List.eraseDups_cons, List.length_cons]
    constructor
    . intro h
      have hnil : (rest.filter fun l => !l == first).eraseDups = [] := by
        rw [← List.length_eq_zero_iff]
        omega
      -- whatever differs from the first label would still be there without repeats
      have hfirst : ∀ l ∈ first :: rest, l = first := by
        intro l hl
        by_cases heq : l = first
        . exact heq
        . have : l ∈ (rest.filter fun l => !l == first).eraseDups := by
            rw [List.mem_eraseDups]
            simpa [heq] using hl
          simp [hnil] at this
      intro l hl l' hl'
      rw [hfirst l hl, hfirst l' hl']
    . intro h
      have hnil : (rest.filter fun l => !l == first) = [] := by
        rw [List.filter_eq_nil_iff]
        intro l hl
        simp [h l (List.mem_cons_of_mem _ hl) first List.mem_cons_self]
      simp [hnil]

theorem refusal_of_fault? {rows : List (Array α)} {labels : List Nat} {e : ClassifierError}
    (h : fault? rows labels = some e) : Refusal rows labels e := by
  unfold fault? at h
  split at h
  . injection h with h
    rw [← h]
    exact .empty
  . next first rest =>
    split at h
    . next hlength =>
      injection h with h
      rw [← h]
      exact .lengths (by simp) hlength
    . next hlength =>
      rw [ne_eq, Decidable.not_not] at hlength
      split at h
      . next row hfind =>
        injection h with h
        rw [← h]
        rw [List.find?_cons_of_neg (by simp)] at hfind
        obtain ⟨hrow, before, after, hrest, hbefore⟩ := List.find?_eq_some_iff_append.mp hfind
        subst hrest
        exact .dimensions hlength (by simpa using hbefore) (by simpa using hrow)
      . next hfind =>
        split at h
        . next hlabels =>
          injection h with h
          rw [← h]
          rw [length_eraseDups_lt_two_iff] at hlabels
          rw [List.find?_eq_none] at hfind
          refine .labels hlength ?_ hlabels
          intro r hr
          simpa using hfind r (List.mem_cons_of_mem _ hr)
        . cases h

theorem fits_of_fault? {rows : List (Array α)} {labels : List Nat}
    (h : fault? rows labels = none) : Fits rows labels := by
  unfold fault? at h
  split at h
  . cases h
  . next first rest =>
    split at h
    . cases h
    . next hlength =>
      split at h
      . cases h
      . next hfind =>
        split at h
        . cases h
        . next hlabels =>
          rw [length_eraseDups_lt_two_iff] at hlabels
          have hsize : ∀ r ∈ first :: rest, r.size = first.size := by
            simpa using List.find?_eq_none.mp hfind
          refine ⟨by simp, Decidable.not_not.mp hlength, ?_, by simpa using hlabels⟩
          intro r hr r' hr'
          rw [hsize r hr, hsize r' hr']

theorem Refusal.fault?_eq {rows : List (Array α)} {labels : List Nat} {e : ClassifierError}
    (h : Refusal rows labels e) : fault? rows labels = some e := by
  cases h with
  | empty => rfl
  | lengths hrows hlength =>
    cases rows with
    | nil => exact absurd rfl hrows
    | cons first rest => simp only [fault?, hlength, ne_eq, not_false_eq_true, ↓reduceIte]
  | @dimensions first row before after _ hlength hbefore hrow =>
    have hfind : (first :: before ++ row :: after).find? (·.size ≠ first.size) = some row := by
      rw [List.cons_append, List.find?_cons_of_neg (by simp), List.find?_eq_some_iff_append]
      exact ⟨by simpa using hrow, before, after, rfl, by simpa using hbefore⟩
    rw [List.cons_append] at hfind hlength
    simp only [fault?, List.cons_append, hlength, ne_eq, not_true_eq_false, ↓reduceIte, hfind]
  | @labels first rest _ hlength hrest hlabels =>
    have hfind : (first :: rest).find? (·.size ≠ first.size) = none := by
      simpa using hrest
    rw [← length_eraseDups_lt_two_iff] at hlabels
    simp only [fault?, hlength, ne_eq, not_true_eq_false, ↓reduceIte, hfind, hlabels]

theorem fault?_eq_some_iff {rows : List (Array α)} {labels : List Nat} {e : ClassifierError} :
    fault? rows labels = some e ↔ Refusal rows labels e :=
  ⟨refusal_of_fault?, Refusal.fault?_eq⟩

theorem Refusal.not_fits {rows : List (Array α)} {labels : List Nat} {e : ClassifierError}
    (h : Refusal rows labels e) : ¬ Fits rows labels := by
  intro hfits
  cases h with
  | empty => exact hfits.nonempty rfl
  | lengths hrows hlength => exact hlength hfits.length_eq
  | dimensions hlength hbefore hrow => exact hrow (hfits.size_eq _ (by simp) _ (by simp))
  | labels hlength hrest hlabels =>
    obtain ⟨l, hl, l', hl', hne⟩ := hfits.two_labels
    exact hne (hlabels l hl l' hl')

theorem fault?_eq_none_iff {rows : List (Array α)} {labels : List Nat} :
    fault? rows labels = none ↔ Fits rows labels := by
  constructor
  . exact fits_of_fault?
  . intro h
    cases hfault : fault? rows labels with
    | none => rfl
    | some e => exact absurd h (refusal_of_fault? hfault).not_fits

variable [Quantity α]

theorem fit_on (forest : Forest α) (rows : List (Array α)) (labels : List Nat) :
    (fit rows labels).on forest =
      match fault? rows labels with
      | some e => some (.error e, forest)
      | none =>
        (treesOf forest.size forest.seed (growthOf rows labels) (samplesOf rows labels)).map
          fun trees => (.ok (), { forest with
            trees := trees
            features := (growthOf rows labels).features
            classes := (growthOf rows labels).classes }) := by
  unfold fit
  cases fault? rows labels with
  | some e => simp
  | none =>
    simp only [Fitting.on_bind, Fitting.on_get, Fitting.on_liftM, Fitting.on_modify, pure_bind]
    cases treesOf forest.size forest.seed (growthOf rows labels) (samplesOf rows labels) with
    | none => rfl
    | some trees => rfl

structure Fitted (rows : List (Array α)) (labels : List Nat) (forest : Forest α) : Prop where
  fits : Fits rows labels
  trees : treesOf forest.size forest.seed (growthOf rows labels) (samplesOf rows labels) =
    some forest.trees
  features : forest.features = (growthOf rows labels).features
  classes : forest.classes = (growthOf rows labels).classes

def Has (size : Nat) (seed : UInt64) (forest : Forest α) : Prop :=
  forest.size = size ∧ forest.seed = seed

theorem fit_on_error_iff {forest forest' : Forest α} {rows : List (Array α)} {labels : List Nat}
    {e : ClassifierError} :
    (fit rows labels).on forest = some (.error e, forest') ↔
      Refusal rows labels e ∧ forest' = forest := by
  rw [fit_on, ← fault?_eq_some_iff]
  cases fault? rows labels with
  | none => simp
  | some e' => simp [eq_comm]

theorem fitted_of_fit {forest forest' : Forest α} {rows : List (Array α)} {labels : List Nat}
    (h : (fit rows labels).on forest = some (.ok (), forest')) :
    Fitted rows labels forest' ∧ forest'.Has forest.size forest.seed := by
  rw [fit_on] at h
  cases hfault : fault? rows labels with
  | some e => simp [hfault] at h
  | none =>
    rw [hfault] at h
    obtain ⟨trees, htrees, hforest⟩ := Option.map_eq_some_iff.mp h
    injection hforest with _ hforest
    subst hforest
    exact ⟨⟨fits_of_fault? hfault, htrees, rfl, rfl⟩, rfl, rfl⟩

omit [Quantity α] in
theorem growthOf_classes {labels : List Nat} (h : labels ≠ []) (rows : List (Array α)) :
    ∃ top ∈ labels, (∀ l ∈ labels, l ≤ top) ∧ (growthOf rows labels).classes = top + 1 := by
  cases hmax : labels.max? with
  | none => exact absurd (List.max?_eq_none_iff.mp hmax) h
  | some top =>
    obtain ⟨hmem, hle⟩ := List.max?_eq_some_iff.mp hmax
    refine ⟨top, hmem, hle, ?_⟩
    simp [growthOf, List.foldl_max, hmax]

omit [Quantity α] in
theorem chosen_subset (samples : Array (Sample α)) (draws : List Nat) :
    draws.filterMap (samples[·]?) ⊆ samples.toList := by
  intro s hs
  obtain ⟨i, _, hi⟩ := List.mem_filterMap.mp hs
  exact Array.mem_toList_iff.mpr (Array.mem_of_getElem? hi)

omit [Quantity α] in
theorem chosen_ne_nil {samples : Array (Sample α)} (h : 0 < samples.size) (g : Generator) :
    (g.drawMany samples.size samples.size).1.filterMap (samples[·]?) ≠ [] := by
  have hdraws : (g.drawMany samples.size samples.size).1 ≠ [] := by
    apply List.ne_nil_of_length_pos
    rwa [Generator.length_drawMany]
  obtain ⟨i, hi⟩ := List.exists_mem_of_ne_nil _ hdraws
  have hlt : i < samples.size := Generator.mem_drawMany_lt h hi
  apply List.ne_nil_of_mem (a := samples[i])
  rw [List.mem_filterMap]
  exact ⟨i, hi, Array.getElem?_eq_getElem hlt⟩

theorem grown_of_treeOf {growth : Growth} {samples : Array (Sample α)} {seed : UInt64}
    {t : DecisionTree α} (h : treeOf growth samples seed = some t) :
    ∃ chosen, Grown growth chosen t ∧ (∀ s ∈ chosen, s ∈ samples) ∧
      (0 < samples.size → chosen ≠ []) := by
  obtain ⟨_, hgrow, rfl⟩ := Option.map_eq_some_iff.mp h
  refine ⟨_, grow_grown Generator.shuffle_perm hgrow, ?_, fun hsize => chosen_ne_nil hsize _⟩
  intro s hs
  exact Array.mem_toList_iff.mp (chosen_subset samples _ hs)

theorem Fitted.within {forest : Forest α} {rows : List (Array α)} {labels : List Nat}
    (h : Fitted rows labels forest) :
    ∀ t ∈ forest.trees, Within forest.features forest.classes t := by
  intro t ht
  obtain ⟨seed, _, htree⟩ := exists_of_mem_mapM h.trees ht
  obtain ⟨_, hgrown, _⟩ := grown_of_treeOf htree
  rw [h.features, h.classes]
  exact hgrown.within

theorem Fitted.trees_ne_nil {forest : Forest α} {rows : List (Array α)} {labels : List Nat}
    (h : Fitted rows labels forest) (hsize : 0 < forest.size) : forest.trees ≠ [] := by
  apply List.ne_nil_of_length_pos
  rw [length_of_mapM h.trees, Generator.length_draw64]
  exact hsize

theorem length_foldl_updateAlong (ds : List (List α)) (start : List α) :
    (ds.foldl (updateAlong (· + ·)) start).length = start.length := by
  induction ds generalizing start with
  | nil => rfl
  | cons d ds ih => rw [List.foldl_cons, ih, length_updateAlong]

theorem predict_of_size_eq {forest : Forest α} {row : Array α} (hne : forest.trees ≠ [])
    (hsize : row.size = forest.features) :
    forest.predict row = .ok (((forest.trees.map (·.predict row)).foldl (updateAlong (· + ·))
      (List.replicate forest.classes 0.0)).map (· / ofNat forest.trees.length)) := by
  unfold predict
  simp only [List.isEmpty_iff, hne, ↓reduceIte, hsize, ne_eq, not_true_eq_false]

theorem predict_of_size_ne {forest : Forest α} {row : Array α} (hne : forest.trees ≠ [])
    (hsize : row.size ≠ forest.features) :
    forest.predict row = .error (.dimensionMismatch forest.features row.size) := by
  unfold predict
  simp only [List.isEmpty_iff, hne, ↓reduceIte, ne_eq, hsize, not_false_eq_true]

omit [Quantity α] in
theorem Fits.growthOf_features {rows : List (Array α)} {labels : List Nat} (h : Fits rows labels)
    {row : Array α} (hrow : row ∈ rows) : (growthOf rows labels).features = row.size := by
  cases rows with
  | nil => simp at hrow
  | cons first rest => exact h.size_eq first List.mem_cons_self row hrow

omit [Quantity α] in
theorem Fits.labels_ne_nil {rows : List (Array α)} {labels : List Nat} (h : Fits rows labels) :
    labels ≠ [] := by
  obtain ⟨l, hl, _⟩ := h.two_labels
  exact List.ne_nil_of_mem hl

structure Answers (forest : Forest α) (rows : List (Array α)) (labels : List Nat) : Prop where
  mismatch : ∀ first ∈ rows, ∀ row : Array α,
    forest.predict row = .error (.dimensionMismatch first.size row.size) ↔ row.size ≠ first.size
  distribution : ∀ first ∈ rows, ∀ row : Array α, row.size = first.size →
    ∃ d, forest.predict row = .ok d ∧
      (∃ top ∈ labels, (∀ l ∈ labels, l ≤ top) ∧ d.length = 1 + top) ∧
      ∀ t ∈ forest.trees, (∀ f ∈ t.reads row, f < row.size) ∧ (t.predict row).length = d.length

theorem Fitted.answers {forest : Forest α} {rows : List (Array α)} {labels : List Nat}
    (h : Fitted rows labels forest) (hsize : 0 < forest.size) : forest.Answers rows labels := by
  have hne := h.trees_ne_nil hsize
  constructor
  . intro first hfirst row
    have hfeatures : forest.features = first.size :=
      h.features.trans (h.fits.growthOf_features hfirst)
    constructor
    . intro herror heq
      rw [predict_of_size_eq hne (by rw [hfeatures, heq])] at herror
      cases herror
    . intro hrow
      rw [predict_of_size_ne hne (by rwa [hfeatures]), hfeatures]
  . intro first hfirst row hrow
    have hfeatures : row.size = forest.features :=
      hrow.trans (h.features.trans (h.fits.growthOf_features hfirst)).symm
    obtain ⟨top, htop, hle, hclasses⟩ := growthOf_classes h.fits.labels_ne_nil rows
    refine ⟨_, predict_of_size_eq hne hfeatures, ⟨top, htop, hle, ?_⟩, ?_⟩
    . rw [List.length_map, length_foldl_updateAlong, List.length_replicate, h.classes, hclasses,
        Nat.add_comm]
    . intro t ht
      have hwithin := h.within t ht
      rw [List.length_map, length_foldl_updateAlong, List.length_replicate, hfeatures]
      exact ⟨hwithin.reads_lt row, hwithin.length_predict row⟩

inductive Step (α : Type) where
  | fit (rows : List (Array α)) (labels : List Nat)
  | predict (row : Array α)

inductive Leaves (forest : Forest α) : Step α → Forest α → Prop where
  | fit {rows : List (Array α)} {labels : List Nat} {answer : Except ClassifierError Unit}
      {forest' : Forest α} (h : (Forest.fit rows labels).on forest = some (answer, forest')) :
      Leaves forest (.fit rows labels) forest'
  | predict (row : Array α) : Leaves forest (.predict row) forest

def Step.Refits : Step α → Prop
  | .fit rows labels => Fits rows labels
  | .predict _ => False

theorem Leaves.has {size : Nat} {seed : UInt64} {forest forest' : Forest α} {step : Step α}
    (h : Leaves forest step forest') (hhas : forest.Has size seed) : forest'.Has size seed := by
  cases h with
  | predict => exact hhas
  | @fit rows labels answer _ h =>
    cases answer with
    | error e =>
      rw [(fit_on_error_iff.mp h).2]
      exact hhas
    | ok _ =>
      obtain ⟨_, hsize, hseed⟩ := fitted_of_fit h
      exact ⟨hsize.trans hhas.1, hseed.trans hhas.2⟩

theorem Leaves.fitted {forest forest' : Forest α} {rows : List (Array α)} {labels : List Nat}
    (h : Leaves forest (.fit rows labels) forest') (hfits : Fits rows labels) :
    Fitted rows labels forest' := by
  cases h with
  | @fit _ _ answer _ h =>
    cases answer with
    | error e => exact absurd hfits (fit_on_error_iff.mp h).1.not_fits
    | ok _ => exact (fitted_of_fit h).1

def FitSucceeds (forest : Forest α) (rows : List (Array α)) (labels : List Nat) : Prop :=
  ∃ forest', (fit rows labels).on forest = some (.ok (), forest')

theorem exists_treeOf {samples : Array (Sample α)} (h : Separable samples.toList) (growth : Growth)
    (seed : UInt64) : ∃ t, treeOf growth samples seed = some t := by
  obtain ⟨r, hr⟩ := growth.exists_grow Generator.shuffle
    ((Generator.ofSeed seed).drawMany samples.size samples.size).2
    (h.subset (chosen_subset samples _))
  exact ⟨r.1, Option.map_eq_some_iff.mpr ⟨r, hr, rfl⟩⟩

theorem fitSucceeds_of_separable (forest : Forest α) {rows : List (Array α)} {labels : List Nat}
    (hfits : Fits rows labels) (h : Separable (samplesOf rows labels).toList) :
    forest.FitSucceeds rows labels := by
  obtain ⟨trees, htrees⟩ : ∃ trees, treesOf forest.size forest.seed (growthOf rows labels)
      (samplesOf rows labels) = some trees :=
    exists_mapM fun treeSeed _ => exists_treeOf h (growthOf rows labels) treeSeed
  rw [FitSucceeds, fit_on, fault?_eq_none_iff.mpr hfits, htrees]
  exact ⟨_, rfl⟩

section Exact

variable {K : Type} [Field K] [LinearOrder K] [IsStrictOrderedRing K] [ElementaryFunctions K]

theorem fitSucceeds_exact (forest : Forest K) {rows : List (Array K)} {labels : List Nat}
    (hfits : Fits rows labels) : forest.FitSucceeds rows labels :=
  forest.fitSucceeds_of_separable hfits (separable_exact _)

theorem exists_leaves (forest : Forest K) (step : Step K) :
    ∃ forest', Leaves forest step forest' := by
  cases step with
  | fit rows labels =>
    cases hfault : fault? rows labels with
    | some e =>
      have herror : (fit rows labels).on forest = some (.error e, forest) :=
        fit_on_error_iff.mpr ⟨fault?_eq_some_iff.mp hfault, rfl⟩
      exact ⟨forest, .fit herror⟩
    | none =>
      obtain ⟨forest', h⟩ := forest.fitSucceeds_exact (fits_of_fault? hfault)
      exact ⟨forest', .fit h⟩
  | predict row => exact ⟨forest, .predict row⟩

end Exact

structure Session (size : Nat) (seed : UInt64) (steps : List (Step α)) (forest : Forest α) :
    Prop where
  fit_error : ∀ rows labels e forest', (fit rows labels).on forest = some (.error e, forest') ↔
    Refusal rows labels e ∧ forest' = forest
  fit_ok : ∀ rows labels forest',
    (fit rows labels).on forest = some (.ok (), forest') → Fits rows labels
  fit_forgets : ∀ rows labels, Fits rows labels →
    (fit rows labels).on forest = (fit rows labels).on (new size seed)
  notFitted : ∀ row, forest.predict row = .error .notFitted ↔ ∀ step ∈ steps, ¬ step.Refits
  fitted : ∀ before rows labels after, steps = before ++ .fit rows labels :: after →
    Fits rows labels → (∀ step ∈ after, ¬ step.Refits) → forest.Answers rows labels

end Forest

end CodeAppraisal.Classifier
