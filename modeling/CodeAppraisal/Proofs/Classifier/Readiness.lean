import CodeAppraisal.Proofs.Classifier.VectorizerSession

/-!
This module shows when a vectorizer that has learned from documents can give rows: unless its
vocabulary may not have any terms.
-/
namespace CodeAppraisal.Classifier

open Quantity

theorem Tally.kept_zero (tally : Tally) : tally.kept (some 0) = [] := by
  apply List.eq_nil_iff_forall_not_mem.mpr
  intro t
  simp [kept, mem_distinctTerms]

namespace Vectorizer

variable {α : Type} [Quantity α]

theorem size_learned_eq_zero_iff {v : Vectorizer α} {documents : List String}
    (h : Learnable v.lengths documents) : (v.learned documents).size = 0 ↔ v.limit = some 0 := by
  constructor
  . intro hsize
    apply Decidable.byContradiction
    intro hlimit
    exact size_learned_ne h hlimit hsize
  . intro hlimit
    rw [size_learned, hlimit, Tally.kept_zero, List.length_nil]

theorem exists_transform_iff {v : Vectorizer α} {document : String} :
    (∃ row, v.transform document = .ok row) ↔ v.size ≠ 0 := by
  constructor
  . rintro ⟨row, hrow⟩ hsize
    rw [transform_of_size_eq hsize] at hrow
    cases hrow
  . intro hsize
    obtain ⟨row, hrow, _⟩ := transform_of_size_ne hsize document
    exact ⟨row, hrow⟩

theorem exists_rows_iff {v : Vectorizer α} {documents : List String} (h : documents ≠ []) :
    (∃ rows, documents.mapM v.transform = .ok rows) ↔ v.size ≠ 0 := by
  constructor
  . rintro ⟨rows, hrows⟩
    obtain ⟨d, hd⟩ := List.exists_mem_of_ne_nil documents h
    -- the row of one of the documents is enough to see that there are columns
    have hmap := mapM_eq_pure_iff.mp hrows
    have hmem : v.transform d ∈ rows.map pure := hmap ▸ List.mem_map_of_mem hd
    obtain ⟨row, _, hrow⟩ := List.mem_map.mp hmem
    exact exists_transform_iff.mp ⟨row, hrow.symm⟩
  . intro hsize
    apply exists_mapM
    intro d _
    exact exists_transform_iff.mpr hsize

variable {m : Type → Type} [Monad m] [LawfulMonad m]

theorem fitTransform_on_of_limit_zero {v : Vectorizer α} {documents : List String}
    (hlearnable : Learnable v.lengths documents) (hlimit : v.limit = some 0) :
    (fitTransform documents : Fitting m (Vectorizer α) (List (List α))).on v =
      pure (.error .notFitted, v.learned documents) := by
  rw [fitTransform_on_of_learnable hlearnable]
  have hsize := (size_learned_eq_zero_iff hlearnable).mpr hlimit
  cases documents with
  | nil =>
    obtain ⟨d, hd, _⟩ := hlearnable
    cases hd
  | cons d rest =>
    rw [List.mapM_cons, transform_of_size_eq hsize]
    rfl

variable [GivesValues m]

theorem ready_of_fit (v : Vectorizer α) (documents : List String) :
    (∀ v', (fit documents : Fitting m (Vectorizer α) Unit).on v = pure (.ok (), v') →
      (v'.isEmpty = false ↔ v.limit ≠ some 0) ∧
      ∀ document, (∃ row, v'.transform document = .ok row) ↔ v.limit ≠ some 0) ∧
    ∀ v', (∃ rows, (fitTransform documents : Fitting m (Vectorizer α) (List (List α))).on v =
        pure (.ok rows, v')) ↔
      (fit documents : Fitting m (Vectorizer α) Unit).on v = pure (.ok (), v') ∧
        v.limit ≠ some 0 := by
  constructor
  . intro v' h
    obtain ⟨hlearnable, rfl⟩ := fit_on_ok_iff.mp h
    have hsize : (v.learned documents).size ≠ 0 ↔ v.limit ≠ some 0 :=
      not_congr (size_learned_eq_zero_iff hlearnable)
    constructor
    . rw [← hsize, ← Bool.not_eq_true, isEmpty_iff_size]
    . intro document
      rw [exists_transform_iff]
      exact hsize
  . intro v'
    simp only [fitTransform_on_ok_iff, fit_on_ok_iff, exists_and_left, and_assoc]
    constructor
    . rintro ⟨hlearnable, rfl, hrows⟩
      obtain ⟨d, hd, _⟩ := id hlearnable
      rw [exists_rows_iff (List.ne_nil_of_mem hd)] at hrows
      exact ⟨hlearnable, rfl, (not_congr (size_learned_eq_zero_iff hlearnable)).mp hrows⟩
    . rintro ⟨hlearnable, rfl, hlimit⟩
      obtain ⟨d, hd, _⟩ := id hlearnable
      refine ⟨hlearnable, rfl, (exists_rows_iff (List.ne_nil_of_mem hd)).mpr ?_⟩
      exact size_learned_ne hlearnable hlimit

theorem ready_of_fit_one : ∃ v : Vectorizer Float,
    (fit (m := Id) ["cc bb aa"]).on (new (some 1) .single) = pure (.ok (), v) ∧
      v.isEmpty = false ∧ (∃ row, v.transform "zeta" = .ok row) ∧
      ∃ rows, (fitTransform (m := Id) ["cc bb aa"]).on (new (some 1) .single) =
        pure (.ok rows, v) := by
  have hfit := @fit_on_of_learnable Float _ Id _ _ (new (some 1) .single) ["cc bb aa"]
    (by decide +kernel)
  obtain ⟨hready, hrows⟩ := @ready_of_fit Float _ Id _ _ _ (new (some 1) .single) ["cc bb aa"]
  obtain ⟨hempty, hrow⟩ := hready _ hfit
  have hlimit : (new (some 1) .single : Vectorizer Float).limit ≠ some 0 := by
    rw [new]
    decide
  exact ⟨_, hfit, hempty.mpr hlimit, (hrow "zeta").mpr hlimit, (hrows _).mpr ⟨hfit, hlimit⟩⟩

/-- A vocabulary that may not have any terms is learned without a complaint, and then there seems to
have been no fit. -/
theorem fit_without_columns : ∃ v : Vectorizer Float,
    (fit (m := Id) ["cc bb aa"]).on (new (some 0) .single) = pure (.ok (), v) ∧
      v.isEmpty = true ∧ v.transform "aa" = .error .notFitted ∧
      (fitTransform (m := Id) ["cc bb aa"]).on (new (some 0) .single) =
        pure (.error .notFitted, v) := by
  have hlearnable : Learnable (new (some 0) .single : Vectorizer Float).lengths ["cc bb aa"] := by
    decide +kernel
  have hsize := (size_learned_eq_zero_iff hlearnable).mpr rfl
  exact ⟨_, fit_on_of_learnable hlearnable, isEmpty_iff_size.mpr hsize,
    transform_of_size_eq hsize "aa", fitTransform_on_of_limit_zero hlearnable rfl⟩

end Vectorizer

end CodeAppraisal.Classifier
