import CodeAppraisal.Proofs.Classifier.Steps
import CodeAppraisal.Proofs.Classifier.Tally
import CodeAppraisal.Proofs.Traversal

/-!
This module shows what a vectorizer holds after any run of fits and transformations: the terms and
the weights of the last documents it could learn from, in step column by column.
-/
namespace CodeAppraisal.Classifier

open Quantity Std

variable {α : Type}

namespace Vectorizer

def Learnable (lengths : RunLengths) (documents : List String) : Prop :=
  ∃ d ∈ documents, termsOf lengths d ≠ []

instance (lengths : RunLengths) (documents : List String) :
    Decidable (Learnable lengths documents) :=
  inferInstanceAs (Decidable (∃ d ∈ documents, termsOf lengths d ≠ []))

inductive Refusal (lengths : RunLengths) : List String → ClassifierError → Prop where
  | empty : Refusal lengths [] .emptyTrainingSet
  | wordless {documents : List String} (hne : documents ≠ [])
      (hterms : ∀ d ∈ documents, termsOf lengths d = []) :
      Refusal lengths documents .emptyVocabulary

theorem Refusal.not_learnable {lengths : RunLengths} {documents : List String} {e : ClassifierError}
    (h : Refusal lengths documents e) : ¬ Learnable lengths documents := by
  rintro ⟨d, hd, hterms⟩
  cases h with
  | empty => cases hd
  | wordless _ hnone => exact hterms (hnone d hd)

theorem exists_refusal {lengths : RunLengths} {documents : List String}
    (h : ¬ Learnable lengths documents) : ∃ e, Refusal lengths documents e := by
  cases documents with
  | nil => exact ⟨_, .empty⟩
  | cons d rest =>
    refine ⟨_, .wordless (by simp) ?_⟩
    intro d' hd'
    apply Decidable.byContradiction
    intro hterms
    exact h ⟨d', hd', hterms⟩

theorem isEmpty_occurrences_iff {lengths : RunLengths} {documents : List String} :
    (Tally.ofDocuments (documents.map (termsOf lengths))).occurrences.isEmpty = true ↔
      ¬ Learnable lengths documents := by
  rw [Tally.isEmpty_occurrences, List.forall_mem_map]
  simp [Learnable]

structure Columns (v : Vectorizer α) : Prop where
  idf_length : v.idf.length = v.size
  column_lt : ∀ (t : String) (c : Nat), v.vocabulary[t]? = some c → c < v.size
  column_used : ∀ c < v.size, ∃ t : String, v.vocabulary[t]? = some c ∧
    ∀ t' : String, v.vocabulary[t']? = some c → t' = t
  ordered : ∀ (t : String) (c : Nat) (t' : String) (c' : Nat), v.vocabulary[t]? = some c →
    v.vocabulary[t']? = some c' → (c < c' ↔ t < t')

theorem new_columns (limit : Option Nat) (lengths : RunLengths) :
    (new limit lengths : Vectorizer α).Columns := by
  constructor
  . rfl
  . intro t c h
    simp [new] at h
  . intro c h
    simp [new, size] at h
  . intro t c t' c' h
    simp [new] at h

variable [Quantity α]

def learned (v : Vectorizer α) (documents : List String) : Vectorizer α :=
  let tally := Tally.ofDocuments (documents.map (termsOf v.lengths))
  { v with
    vocabulary := .ofList (tally.kept v.limit).zipIdx
    idf := (tally.kept v.limit).map fun t => rarity documents.length (tally.documents.getD t 0) }

section Fit

variable {m : Type → Type} [Monad m] [LawfulMonad m]

theorem fit_on (v : Vectorizer α) (documents : List String) :
    (fit documents : Fitting m (Vectorizer α) Unit).on v =
      if documents.isEmpty then pure (.error .emptyTrainingSet, v)
      else if (Tally.ofDocuments (documents.map (termsOf v.lengths))).occurrences.isEmpty then
        pure (.error .emptyVocabulary, v)
      else pure (.ok (), v.learned documents) := by
  unfold fit
  split
  . next hnone => simp
  . next hsome =>
    split
    . next hnone => simp [hnone]
    . next hsome => simp [hsome, learned]

theorem fit_on_of_learnable {v : Vectorizer α} {documents : List String}
    (h : Learnable v.lengths documents) :
    (fit documents : Fitting m (Vectorizer α) Unit).on v = pure (.ok (), v.learned documents) := by
  obtain ⟨d, hd, _⟩ := id h
  rw [fit_on, if_neg, if_neg]
  . intro hnone
    exact isEmpty_occurrences_iff.mp hnone h
  . simp [List.ne_nil_of_mem hd]

theorem fit_on_of_refusal {v : Vectorizer α} {documents : List String} {e : ClassifierError}
    (h : Refusal v.lengths documents e) :
    (fit documents : Fitting m (Vectorizer α) Unit).on v = pure (.error e, v) := by
  have hterms := isEmpty_occurrences_iff.mpr h.not_learnable
  rw [fit_on, if_pos hterms]
  cases h with
  | empty => rfl
  | wordless hne hnone => simp [hne]

theorem fitTransform_on_of_learnable {v : Vectorizer α} {documents : List String}
    (h : Learnable v.lengths documents) :
    (fitTransform documents : Fitting m (Vectorizer α) (List (List α))).on v =
      pure (documents.mapM (v.learned documents).transform, v.learned documents) := by
  simp [fitTransform, fit_on_of_learnable h]

theorem fitTransform_on_of_refusal {v : Vectorizer α} {documents : List String}
    {e : ClassifierError} (h : Refusal v.lengths documents e) :
    (fitTransform documents : Fitting m (Vectorizer α) (List (List α))).on v =
      pure (.error e, v) := by
  simp [fitTransform, fit_on_of_refusal h]

variable [GivesValues m]

theorem fit_on_error_iff {v v' : Vectorizer α} {documents : List String} {e : ClassifierError} :
    (fit documents : Fitting m (Vectorizer α) Unit).on v = pure (.error e, v') ↔
      Refusal v.lengths documents e ∧ v' = v := by
  constructor
  . intro h
    by_cases hlearnable : Learnable v.lengths documents
    . rw [fit_on_of_learnable hlearnable] at h
      cases GivesValues.pure_inj h
    . obtain ⟨e', he'⟩ := exists_refusal hlearnable
      rw [fit_on_of_refusal he'] at h
      cases GivesValues.pure_inj h
      exact ⟨he', rfl⟩
  . rintro ⟨h, rfl⟩
    exact fit_on_of_refusal h

theorem fit_on_ok_iff {v v' : Vectorizer α} {documents : List String} :
    (fit documents : Fitting m (Vectorizer α) Unit).on v = pure (.ok (), v') ↔
      Learnable v.lengths documents ∧ v' = v.learned documents := by
  constructor
  . intro h
    by_cases hlearnable : Learnable v.lengths documents
    . rw [fit_on_of_learnable hlearnable] at h
      cases GivesValues.pure_inj h
      exact ⟨hlearnable, rfl⟩
    . obtain ⟨e, he⟩ := exists_refusal hlearnable
      rw [fit_on_of_refusal he] at h
      cases GivesValues.pure_inj h
  . rintro ⟨h, rfl⟩
    exact fit_on_of_learnable h

theorem fitTransform_on_ok_iff {v v' : Vectorizer α} {documents : List String}
    {rows : List (List α)} :
    (fitTransform documents : Fitting m (Vectorizer α) (List (List α))).on v =
        pure (.ok rows, v') ↔
      Learnable v.lengths documents ∧ v' = v.learned documents ∧
        documents.mapM v'.transform = .ok rows := by
  constructor
  . intro h
    by_cases hlearnable : Learnable v.lengths documents
    . rw [fitTransform_on_of_learnable hlearnable] at h
      injection GivesValues.pure_inj h with hrows hv'
      exact ⟨hlearnable, hv'.symm, hv' ▸ hrows⟩
    . obtain ⟨e, he⟩ := exists_refusal hlearnable
      rw [fitTransform_on_of_refusal he] at h
      cases GivesValues.pure_inj h
  . rintro ⟨h, rfl, hrows⟩
    rw [fitTransform_on_of_learnable h, hrows]

end Fit

theorem vocabulary_learned {v : Vectorizer α} {documents : List String} {t : String} {c : Nat} :
    (v.learned documents).vocabulary[t]? = some c ↔
      ((Tally.ofDocuments (documents.map (termsOf v.lengths))).kept v.limit)[c]? = some t :=
  getElem?_ofList_zipIdx (Tally.kept_pairwise _ _) t c

theorem size_learned (v : Vectorizer α) (documents : List String) :
    (v.learned documents).size =
      ((Tally.ofDocuments (documents.map (termsOf v.lengths))).kept v.limit).length :=
  size_ofList_zipIdx (Tally.kept_pairwise _ _)

theorem size_learned_ne {v : Vectorizer α} {documents : List String}
    (h : Learnable v.lengths documents) (hlimit : v.limit ≠ some 0) :
    (v.learned documents).size ≠ 0 := by
  rw [size_learned, ne_eq, List.length_eq_zero_iff]
  apply Tally.kept_ne_nil hlimit
  rw [Bool.eq_false_iff]
  intro hnone
  exact isEmpty_occurrences_iff.mp hnone h

theorem learned_columns (v : Vectorizer α) (documents : List String) :
    (v.learned documents).Columns := by
  constructor
  case idf_length =>
    rw [size_learned]
    exact List.length_map _
  case column_lt =>
    intro t c h
    rw [vocabulary_learned] at h
    rw [size_learned]
    exact (List.getElem?_eq_some_iff.mp h).1
  case column_used =>
    intro c hc
    rw [size_learned] at hc
    simp only [vocabulary_learned]
    refine ⟨_, List.getElem?_eq_getElem hc, ?_⟩
    intro t' ht'
    rw [List.getElem?_eq_getElem hc] at ht'
    injection ht' with ht'
    exact ht'.symm
  case ordered =>
    intro t c t' c' h h'
    rw [vocabulary_learned] at h h'
    exact lt_iff_of_pairwise (Tally.kept_pairwise _ _) h h'

def Weighs (v : Vectorizer α) (documents : List String) : Prop :=
  ∀ (t : String) (c : Nat), v.vocabulary[t]? = some c →
    v.idf[c]? = some (rarity documents.length (documents.countP fun d => t ∈ termsOf v.lengths d))

theorem learned_weighs (v : Vectorizer α) (documents : List String) :
    (v.learned documents).Weighs documents := by
  intro t c h
  rw [vocabulary_learned] at h
  unfold learned
  rw [List.getElem?_map, h, Option.map_some, Tally.getD_documents, List.countP_map]
  rfl

omit [Quantity α] in
theorem Columns.columnsOf_lt {v : Vectorizer α} (h : v.Columns) {terms : List String} {c : Nat}
    (hc : c ∈ v.columnsOf terms) : c < v.size := by
  obtain ⟨t, _, hlookup⟩ := List.mem_filterMap.mp hc
  exact h.column_lt t c hlookup

omit [Quantity α] in
theorem isEmpty_iff_size {v : Vectorizer α} : v.isEmpty = true ↔ v.size = 0 := by
  unfold isEmpty size
  rw [TreeMap.isEmpty_eq_size_eq_zero, beq_iff_eq]

theorem length_foldl_countColumn (columns : List Nat) (row : List α) :
    (columns.foldl countColumn row).length = row.length := by
  induction columns generalizing row with
  | nil => rfl
  | cons c columns ih => rw [List.foldl_cons, ih, countColumn, List.length_modify]

theorem length_normalized (row : List α) : (normalized row).length = row.length := by
  unfold normalized
  dsimp only
  split
  . rw [List.length_map]
  . rfl

theorem transform_of_size_ne {v : Vectorizer α} (h : v.size ≠ 0) (document : String) :
    ∃ row, v.transform document = .ok row ∧ row.length = v.size := by
  unfold transform
  rw [if_neg (by rwa [isEmpty_iff_size])]
  refine ⟨_, rfl, ?_⟩
  rw [length_normalized, length_updateAlong, length_foldl_countColumn, List.length_replicate]

theorem transform_of_size_eq {v : Vectorizer α} (h : v.size = 0) (document : String) :
    v.transform document = .error .notFitted := by
  unfold transform
  rw [if_pos (isEmpty_iff_size.mpr h)]

theorem transform_error_iff {v : Vectorizer α} {document : String} {e : ClassifierError} :
    v.transform document = .error e ↔ v.size = 0 ∧ e = .notFitted := by
  by_cases h : v.size = 0
  . rw [transform_of_size_eq h]
    simp [h, eq_comm]
  . obtain ⟨row, hrow, _⟩ := transform_of_size_ne h document
    simp [hrow, h]

theorem length_of_transform {v : Vectorizer α} {document : String} {row : List α}
    (h : v.transform document = .ok row) : row.length = v.size := by
  by_cases hsize : v.size = 0
  . rw [transform_of_size_eq hsize] at h
    cases h
  . obtain ⟨row', hrow', hlength⟩ := transform_of_size_ne hsize document
    rw [hrow'] at h
    injection h with h
    rwa [← h]

theorem rows_of_transform {v : Vectorizer α} {documents : List String} {rows : List (List α)}
    (h : documents.mapM v.transform = .ok rows) :
    rows.length = documents.length ∧ ∀ row ∈ rows, row.length = v.size := by
  refine ⟨length_of_mapM h, ?_⟩
  intro row hrow
  obtain ⟨d, _, hd⟩ := exists_of_mem_mapM h hrow
  exact length_of_transform hd

inductive Step where
  | fit (documents : List String)
  | transform (document : String)
  | fitTransform (documents : List String)

def Step.taught : Step → List String
  | .fit documents => documents
  | .transform _ => []
  | .fitTransform documents => documents

inductive Leaves (v : Vectorizer α) : Step → Vectorizer α → Prop where
  | fit {documents : List String} {answer : Except ClassifierError Unit} {v' : Vectorizer α}
      (h : (Vectorizer.fit (m := Id) documents).on v = pure (answer, v')) :
      Leaves v (.fit documents) v'
  | transform (document : String) : Leaves v (.transform document) v
  | fitTransform {documents : List String} {answer : Except ClassifierError (List (List α))}
      {v' : Vectorizer α}
      (h : (Vectorizer.fitTransform (m := Id) documents).on v = pure (answer, v')) :
      Leaves v (.fitTransform documents) v'

theorem Leaves.eq_learned {v v' : Vectorizer α} {step : Step} (h : Leaves v step v')
    (hlearnable : Learnable v.lengths step.taught) : v' = v.learned step.taught := by
  cases h with
  | transform document =>
    obtain ⟨d, hd, _⟩ := hlearnable
    cases hd
  | fit h =>
    have hon := h.symm.trans (fit_on_of_learnable hlearnable)
    injection GivesValues.pure_inj hon with _ hv'
  | fitTransform h =>
    have hon := h.symm.trans (fitTransform_on_of_learnable hlearnable)
    injection GivesValues.pure_inj hon with _ hv'

theorem Leaves.eq_self {v v' : Vectorizer α} {step : Step} (h : Leaves v step v')
    (hnone : ¬ Learnable v.lengths step.taught) : v' = v := by
  obtain ⟨e, he⟩ := exists_refusal hnone
  cases h with
  | transform document => rfl
  | fit h =>
    have hon := h.symm.trans (fit_on_of_refusal he)
    injection GivesValues.pure_inj hon with _ hv'
  | fitTransform h =>
    have hon := h.symm.trans (fitTransform_on_of_refusal he)
    injection GivesValues.pure_inj hon with _ hv'

theorem Leaves.lengths_eq {v v' : Vectorizer α} {step : Step} (h : Leaves v step v') :
    v'.lengths = v.lengths := by
  by_cases hlearnable : Learnable v.lengths step.taught
  . rw [h.eq_learned hlearnable]
    rfl
  . rw [h.eq_self hlearnable]

theorem Leaves.columns {v v' : Vectorizer α} {step : Step} (h : Leaves v step v')
    (hcolumns : v.Columns) : v'.Columns := by
  by_cases hlearnable : Learnable v.lengths step.taught
  . rw [h.eq_learned hlearnable]
    exact learned_columns v step.taught
  . rw [h.eq_self hlearnable]
    exact hcolumns

theorem exists_leaves (v : Vectorizer α) (step : Step) : ∃ v', Leaves v step v' := by
  cases step with
  | fit documents => exact ⟨_, .fit rfl⟩
  | transform document => exact ⟨v, .transform document⟩
  | fitTransform documents => exact ⟨_, .fitTransform rfl⟩

theorem lengths_of_run {v v' : Vectorizer α} {steps : List Step} (h : Run Leaves v steps v') :
    v'.lengths = v.lengths :=
  h.keeps (fun u => u.lengths = v.lengths)
    (fun _ _ _ hlengths hleaves => hleaves.lengths_eq.trans hlengths) rfl

theorem columns_of_run {v v' : Vectorizer α} {steps : List Step} (h : Run Leaves v steps v')
    (hcolumns : v.Columns) : v'.Columns :=
  h.keeps Columns (fun _ _ _ hcolumns hleaves => hleaves.columns hcolumns) hcolumns

theorem eq_self_of_run {v v' : Vectorizer α} {steps : List Step} (h : Run Leaves v steps v')
    (hnone : ∀ step ∈ steps, ¬ Learnable v.lengths step.taught) : v' = v :=
  h.eq_start (fun _ _ hstep hleaves => hleaves.eq_self hstep) hnone

theorem weighs_of_run {v v' : Vectorizer α} {before after : List Step} {step : Step}
    (h : Run Leaves v (before ++ step :: after) v') (hlearnable : Learnable v.lengths step.taught)
    (hafter : ∀ s ∈ after, ¬ Learnable v.lengths s.taught) : v'.Weighs step.taught := by
  obtain ⟨v₁, v₂, hbefore, hstep, hrest⟩ := h.of_append
  have hlengths := lengths_of_run hbefore
  rw [← hlengths] at hlearnable hafter
  rw [← hstep.lengths_eq] at hafter
  rw [eq_self_of_run hrest hafter, hstep.eq_learned hlearnable]
  exact learned_weighs v₁ step.taught

structure Session (limit : Option Nat) (lengths : RunLengths) (steps : List Step)
    (v : Vectorizer α) : Prop where
  columns : v.Columns
  weighs : ∀ before step after, steps = before ++ step :: after → Learnable lengths step.taught →
    (∀ s ∈ after, ¬ Learnable lengths s.taught) → v.Weighs step.taught
  unlearned : (∀ step ∈ steps, ¬ Learnable lengths step.taught) → v = new limit lengths
  fit_error : ∀ documents e v', (fit (m := Id) documents).on v = pure (.error e, v') ↔
    Refusal lengths documents e ∧ v' = v
  fit_ok : ∀ documents, (∃ v', (fit (m := Id) documents).on v = pure (.ok (), v')) ↔
    Learnable lengths documents
  fitTransform_error : ∀ documents e v',
    (fit (m := Id) documents).on v = pure (.error e, v') →
      (fitTransform (m := Id) documents).on v = pure (.error e, v')
  fitTransform_ok : ∀ documents v', (fit (m := Id) documents).on v = pure (.ok (), v') →
    (fitTransform (m := Id) documents).on v = pure (documents.mapM v'.transform, v')
  fitTransform_rows : ∀ documents rows v',
    (fitTransform (m := Id) documents).on v = pure (.ok rows, v') →
      rows.length = documents.length ∧ ∀ row ∈ rows, row.length = v'.size
  transform_error : ∀ document e,
    v.transform document = .error e ↔ v.size = 0 ∧ e = .notFitted
  transform_keeps : ∀ document v', Leaves v (.transform document) v' → v' = v
  transform_ok : ∀ document row, v.transform document = .ok row →
    row.length = v.size ∧ ∀ c ∈ v.columnsOf (termsOf v.lengths document), c < row.length

theorem vectorizer_session {limit : Option Nat} {lengths : RunLengths} {steps : List Step}
    {v : Vectorizer α} (h : Run Leaves (new limit lengths) steps v) :
    Session limit lengths steps v := by
  have hlengths : v.lengths = lengths := lengths_of_run h
  have hcolumns := columns_of_run h (new_columns limit lengths)
  constructor
  case columns => exact hcolumns
  case weighs =>
    intro before step after hsteps hlearnable hafter
    rw [hsteps] at h
    exact weighs_of_run h hlearnable hafter
  case unlearned =>
    intro hnone
    exact eq_self_of_run h hnone
  case fit_error =>
    intro documents e v'
    rw [fit_on_error_iff, hlengths]
  case fit_ok =>
    intro documents
    simp only [fit_on_ok_iff, hlengths, exists_and_left, exists_eq, and_true]
  case fitTransform_error =>
    intro documents e v' hfit
    obtain ⟨hrefusal, rfl⟩ := fit_on_error_iff.mp hfit
    exact fitTransform_on_of_refusal hrefusal
  case fitTransform_ok =>
    intro documents v' hfit
    obtain ⟨hlearnable, rfl⟩ := fit_on_ok_iff.mp hfit
    exact fitTransform_on_of_learnable hlearnable
  case fitTransform_rows =>
    intro documents rows v' hrows
    exact rows_of_transform (fitTransform_on_ok_iff.mp hrows).2.2
  case transform_error =>
    intro document e
    exact transform_error_iff
  case transform_keeps =>
    intro document v' hleaves
    cases hleaves
    rfl
  case transform_ok =>
    intro document row hrow
    have hlength := length_of_transform hrow
    refine ⟨hlength, ?_⟩
    intro c hc
    rw [hlength]
    exact hcolumns.columnsOf_lt hc

theorem vectorizer_session_refit : ∃ v : Vectorizer Float,
    Run Leaves (new none .single)
      [.fit [], .fit ["alpha beta", "beta"], .transform "beta", .fitTransform ["a = 1"]] v ∧
      v.Columns ∧ v.Weighs ["alpha beta", "beta"] := by
  obtain ⟨v, hv⟩ := Run.exists_of_leaves exists_leaves (new none .single : Vectorizer Float)
    [.fit [], .fit ["alpha beta", "beta"], .transform "beta", .fitTransform ["a = 1"]]
  have hsession := vectorizer_session hv
  refine ⟨v, hv, hsession.columns, ?_⟩
  exact hsession.weighs [.fit []] (.fit ["alpha beta", "beta"])
    [.transform "beta", .fitTransform ["a = 1"]] rfl (by decide +kernel) (by decide +kernel)

end Vectorizer

end CodeAppraisal.Classifier
