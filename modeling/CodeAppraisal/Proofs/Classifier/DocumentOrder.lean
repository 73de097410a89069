import CodeAppraisal.Proofs.Classifier.Ranking

/-!
This module shows that a vectorizer learns the same from some documents in whatever order they come.
-/
namespace CodeAppraisal.Classifier

open Quantity

theorem IsRanking.of_perm {terms terms' order : List String} (h : IsRanking terms order)
    (hperm : terms.Perm terms') : IsRanking terms' order := by
  constructor
  . intro t
    rw [h.mem_iff, hperm.mem_iff]
  . apply h.pairwise.imp
    intro s t hbefore
    unfold Before at hbefore ⊢
    rwa [← hperm.count_eq, ← hperm.count_eq]

namespace Tally

variable {documents documents' : List (List String)}

theorem kept_perm (h : documents.Perm documents') (limit : Option Nat) :
    (ofDocuments documents).kept limit = (ofDocuments documents').kept limit := by
  have hranking := isRanking_ranked documents
  rw [kept_eq hranking, kept_eq (hranking.of_perm h.flatten)]

theorem documents_perm (h : documents.Perm documents') (t : String) :
    (ofDocuments documents).documents.getD t 0 = (ofDocuments documents').documents.getD t 0 := by
  rw [getD_documents, getD_documents, h.countP_eq]

end Tally

namespace Vectorizer

variable {α : Type} [Quantity α] {documents documents' : List String}

theorem Refusal.of_perm {lengths : RunLengths} {e : ClassifierError}
    (h : Refusal lengths documents e) (hperm : documents.Perm documents') :
    Refusal lengths documents' e := by
  cases h with
  | empty =>
    rw [hperm.symm.eq_nil]
    exact .empty
  | wordless hne hterms =>
    apply Refusal.wordless
    . intro hnil
      apply hne
      rw [hnil] at hperm
      exact hperm.eq_nil
    . intro d hd
      exact hterms d (hperm.mem_iff.mpr hd)

theorem learned_perm (v : Vectorizer α) (h : documents.Perm documents') :
    v.learned documents = v.learned documents' := by
  have hterms := h.map (termsOf v.lengths)
  unfold learned
  simp only [Tally.kept_perm hterms, Tally.documents_perm hterms, h.length_eq]

variable {m : Type → Type} [Monad m] [LawfulMonad m]

theorem fit_perm (h : documents.Perm documents') (v : Vectorizer α) :
    (fit documents : Fitting m (Vectorizer α) Unit).on v = (fit documents').on v := by
  by_cases hlearnable : Learnable v.lengths documents
  . obtain ⟨d, hd, hterms⟩ := id hlearnable
    have hlearnable' : Learnable v.lengths documents' := ⟨d, h.mem_iff.mp hd, hterms⟩
    rw [fit_on_of_learnable hlearnable, fit_on_of_learnable hlearnable', learned_perm v h]
  . obtain ⟨e, he⟩ := exists_refusal hlearnable
    rw [fit_on_of_refusal he, fit_on_of_refusal (he.of_perm h)]

theorem exists_fit_on (v : Vectorizer α) (documents : List String) : ∃ answer w,
    (fit documents : Fitting m (Vectorizer α) Unit).on v = pure (answer, w) := by
  by_cases hlearnable : Learnable v.lengths documents
  . exact ⟨_, _, fit_on_of_learnable hlearnable⟩
  . obtain ⟨e, he⟩ := exists_refusal hlearnable
    exact ⟨_, _, fit_on_of_refusal he⟩

theorem fit_disregards_order (h : documents.Perm documents') (v : Vectorizer α) :
    ∃ answer w w', (fit documents : Fitting m (Vectorizer α) Unit).on v = pure (answer, w) ∧
      (fit documents' : Fitting m (Vectorizer α) Unit).on v = pure (answer, w') ∧
      w.vocabulary = w'.vocabulary ∧ w.idf = w'.idf ∧
      ∀ document, w.transform document = w'.transform document := by
  obtain ⟨answer, w, hfit⟩ := exists_fit_on (m := m) v documents
  refine ⟨answer, w, w, hfit, ?_, rfl, rfl, fun _ => rfl⟩
  rw [← fit_perm h, hfit]

theorem fit_disregards_order_tie : ∃ (answer : Except ClassifierError Unit)
    (w w' : Vectorizer Float),
    (fit (m := Id) ["cc bb aa", "bb", "aa"]).on (new (some 2) .single) = pure (answer, w) ∧
      (fit (m := Id) ["aa", "cc bb aa", "bb"]).on (new (some 2) .single) = pure (answer, w') ∧
      w.vocabulary = w'.vocabulary ∧ w.idf = w'.idf ∧
      w.transform "aa bb cc" = w'.transform "aa bb cc" := by
  have hperm : ["cc bb aa", "bb", "aa"].Perm ["aa", "cc bb aa", "bb"] := by decide
  obtain ⟨answer, w, w', hfit, hfit', hvocabulary, hidf, hrow⟩ :=
    fit_disregards_order (α := Float) (m := Id) hperm (new (some 2) .single)
  exact ⟨answer, w, w', hfit, hfit', hvocabulary, hidf, hrow "aa bb cc"⟩

end Vectorizer

end CodeAppraisal.Classifier
