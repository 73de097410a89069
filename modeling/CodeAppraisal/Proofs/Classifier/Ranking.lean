import CodeAppraisal.Proofs.Classifier.VectorizerSession

/-!
This module shows which terms a vocabulary keeps when there are more than its limit: those that are
used most, and of those used equally often the first in the alphabet.
-/
namespace CodeAppraisal.Classifier

open Quantity Std

theorem mergeSort_pairwise {β : Type} {le : β → β → Bool} {R : β → β → Prop} {xs : List β}
    (htrans : ∀ a b c, le a b = true → le b c = true → le a c = true)
    (htotal : ∀ a b, (le a b || le b a) = true) (h : xs.Pairwise R) :
    (xs.mergeSort le).Pairwise fun a b => le b a = false ∨ R a b := by
  induction xs with
  | nil => simp
  | cons x xs ih =>
    rw [List.pairwise_cons] at h
    -- the sort puts an element right behind all that is less than it
    obtain ⟨before, after, hsort, hrest, hless⟩ := List.mergeSort_cons htrans htotal x xs
    have hafter : ∀ y ∈ after, y ∈ xs := by
      intro y hy
      have hmem : y ∈ xs.mergeSort le := hrest ▸ List.mem_append_right before hy
      exact List.mem_mergeSort.mp hmem
    have ih := ih h.2
    rw [hrest, List.pairwise_append] at ih
    obtain ⟨hbefore, hbehind, hacross⟩ := ih
    rw [hsort, List.pairwise_append, List.pairwise_cons]
    refine ⟨hbefore, ⟨?_, hbehind⟩, ?_⟩
    . intro y hy
      exact .inr (h.1 y (hafter y hy))
    . intro y hy z hz
      cases List.mem_cons.mp hz with
      | inl heq =>
        rw [heq]
        exact .inl (by simpa using hless y hy)
      | inr hmem => exact hacross y hy z hmem

def corpus (lengths : RunLengths) (documents : List String) : List String :=
  documents.flatMap (termsOf lengths)

def Before (terms : List String) (s t : String) : Prop :=
  terms.count t < terms.count s ∨ terms.count t = terms.count s ∧ s < t

instance (terms : List String) (s t : String) : Decidable (Before terms s t) :=
  inferInstanceAs (Decidable (_ ∨ _))

structure IsRanking (terms order : List String) : Prop where
  mem_iff : ∀ t, t ∈ order ↔ t ∈ terms
  pairwise : order.Pairwise (Before terms)

namespace IsRanking

variable {terms order order' : List String}

theorem nodup (h : IsRanking terms order) : order.Nodup := by
  apply h.pairwise.imp
  rintro s _ (hless | ⟨_, hlt⟩) rfl
  . exact Nat.lt_irrefl _ hless
  . exact String.lt_irrefl s hlt

theorem unique (h : IsRanking terms order) (h' : IsRanking terms order') : order = order' := by
  have hperm : order.Perm order' := by
    rw [List.perm_ext_iff_of_nodup h.nodup h'.nodup]
    intro t
    rw [h.mem_iff, h'.mem_iff]
  refine List.Perm.eq_of_pairwise ?_ h.pairwise h'.pairwise hperm
  rintro s t _ _ (hless | ⟨heq, hlt⟩) (hless' | ⟨heq', hlt'⟩)
  . omega
  . omega
  . omega
  . exact absurd hlt' (String.lt_asymm hlt)

theorem before_of_take (h : IsRanking terms order) {n : Nat} {s t : String} (hs : s ∈ order.take n)
    (ht : t ∈ order) (hout : t ∉ order.take n) : Before terms s t := by
  have hpairwise := h.pairwise
  rw [← List.take_append_drop n order] at ht hpairwise
  have hdrop := (List.mem_append.mp ht).resolve_left hout
  exact (List.pairwise_append.mp hpairwise).2.2 s hs t hdrop

end IsRanking

namespace Tally

theorem mem_ranked {tally : Tally} {p : String × Nat} :
    p ∈ tally.ranked ↔ tally.occurrences[p.1]? = some p.2 := by
  rw [ranked, List.mem_mergeSort, TreeMap.mem_toList_iff_getElem?_eq_some]

theorem ranked_pairwise (tally : Tally) :
    tally.ranked.Pairwise fun a b => b.2 < a.2 ∨ b.2 = a.2 ∧ a.1 < b.1 := by
  have htrans : ∀ a b c : String × Nat, decide (b.2 ≤ a.2) = true → decide (c.2 ≤ b.2) = true →
      decide (c.2 ≤ a.2) = true := by
    simp only [decide_eq_true_eq]
    omega
  have htotal : ∀ a b : String × Nat, (decide (b.2 ≤ a.2) || decide (a.2 ≤ b.2)) = true := by
    simp only [Bool.or_eq_true, decide_eq_true_eq]
    omega
  have halphabet : tally.occurrences.toList.Pairwise fun a b => a.1 < b.1 :=
    TreeMap.ordered_keys_toList.imp compare_eq_lt_iff.mp
  -- the terms come out of the map in alphabetical order, and the sort moves none past its equals
  have hstable := mergeSort_pairwise htrans htotal halphabet
  have hsorted := List.pairwise_mergeSort htrans htotal tally.occurrences.toList
  apply (hsorted.and hstable).imp
  simp only [decide_eq_true_eq, decide_eq_false_iff_not, and_imp]
  intro a b hle h
  cases h with
  | inl hless => exact .inl (by omega)
  | inr hlt =>
    cases Nat.lt_or_eq_of_le hle with
    | inl hless => exact .inl hless
    | inr heq => exact .inr ⟨heq, hlt⟩

theorem isRanking_ranked (documents : List (List String)) :
    IsRanking documents.flatten ((ofDocuments documents).ranked.map (·.1)) := by
  have hcount : ∀ p ∈ (ofDocuments documents).ranked, p.2 = documents.flatten.count p.1 := by
    intro p hp
    rw [mem_ranked] at hp
    rw [← getD_occurrences, TreeMap.getD_eq_getD_getElem?, hp, Option.getD_some]
  constructor
  . intro t
    rw [List.mem_map, List.mem_flatten, ← mem_occurrences, TreeMap.mem_iff_isSome_getElem?,
      Option.isSome_iff_exists]
    constructor
    . rintro ⟨p, hp, rfl⟩
      exact ⟨p.2, mem_ranked.mp hp⟩
    . rintro ⟨n, hn⟩
      exact ⟨(t, n), mem_ranked.mpr hn, rfl⟩
  . rw [List.pairwise_map]
    apply (ranked_pairwise _).imp_of_mem
    intro a b ha hb h
    rwa [hcount a ha, hcount b hb] at h

theorem kept_eq {documents : List (List String)} {order : List String}
    (h : IsRanking documents.flatten order) (limit : Option Nat) :
    (ofDocuments documents).kept limit = distinctTerms (order.take (limit.getD order.length)) := by
  rw [← (isRanking_ranked documents).unique h, kept, List.map_take, List.length_map]

end Tally

namespace Vectorizer

variable {α : Type} [Quantity α] {m : Type → Type} [Monad m] [LawfulMonad m] [GivesValues m]

theorem mem_vocabulary_learned {v : Vectorizer α} {documents order : List String}
    (h : IsRanking (corpus v.lengths documents) order) {t : String} :
    t ∈ (v.learned documents).vocabulary ↔ t ∈ order.take (v.limit.getD order.length) := by
  rw [learned, TreeMap.mem_ofList, List.zipIdx_map_fst, List.contains_iff_mem, Tally.kept_eq h,
    mem_distinctTerms]

theorem size_learned_eq_min {v : Vectorizer α} {documents order : List String}
    (h : IsRanking (corpus v.lengths documents) order) :
    (v.learned documents).size = min (v.limit.getD order.length) order.length := by
  rw [size_learned, Tally.kept_eq h, length_distinctTerms (h.nodup.sublist (List.take_sublist _ _)),
    List.length_take]

/-- A fit keeps the first terms of the one ranking of its documents, so none that it drops is used
more than one that it keeps, nor comes before one that is used as often. -/
theorem vocabulary_of_fit {v v' : Vectorizer α} {documents : List String}
    (h : (fit documents : Fitting m (Vectorizer α) Unit).on v = pure (.ok (), v')) :
    (∃ order, IsRanking (corpus v.lengths documents) order) ∧
    ∀ order, IsRanking (corpus v.lengths documents) order →
      (∀ t, t ∈ v'.vocabulary ↔ t ∈ order.take (v.limit.getD order.length)) ∧
      v'.size = min (v.limit.getD order.length) order.length ∧
      ∀ s t, s ∈ v'.vocabulary → t ∈ corpus v.lengths documents → t ∉ v'.vocabulary →
        (corpus v.lengths documents).count t ≤ (corpus v.lengths documents).count s ∧
        ((corpus v.lengths documents).count t = (corpus v.lengths documents).count s → s < t) := by
  obtain ⟨_, rfl⟩ := fit_on_ok_iff.mp h
  refine ⟨⟨_, Tally.isRanking_ranked (documents.map (termsOf v.lengths))⟩, ?_⟩
  intro order horder
  refine ⟨fun t => mem_vocabulary_learned horder, size_learned_eq_min horder, ?_⟩
  intro s t hs ht hout
  rw [mem_vocabulary_learned horder] at hs hout
  cases horder.before_of_take hs ((horder.mem_iff t).mpr ht) hout with
  | inl hless => exact ⟨Nat.le_of_lt hless, fun heq => absurd heq (Nat.ne_of_lt hless)⟩
  | inr htie => exact ⟨Nat.le_of_eq htie.1, fun _ => htie.2⟩

theorem vocabulary_of_fit_tie : ∃ v : Vectorizer Float,
    (fit (m := Id) ["cc bb aa", "bb"]).on (new (some 2) .single) = pure (.ok (), v) ∧
      "aa" ∈ v.vocabulary ∧ "bb" ∈ v.vocabulary ∧ "cc" ∉ v.vocabulary ∧ v.size = 2 := by
  have hfit := @fit_on_of_learnable Float _ Id _ _ (new (some 2) .single) ["cc bb aa", "bb"]
    (by decide +kernel)
  obtain ⟨_, hkept⟩ := vocabulary_of_fit hfit
  have hcorpus : corpus .single ["cc bb aa", "bb"] = ["cc", "bb", "aa", "bb"] := by decide +kernel
  have hranking : IsRanking (corpus .single ["cc bb aa", "bb"]) ["bb", "aa", "cc"] := by
    rw [hcorpus]
    constructor
    . intro t
      simp only [List.mem_cons, List.not_mem_nil, or_false]
      grind
    . decide
  obtain ⟨hmem, hsize, _⟩ := hkept _ hranking
  refine ⟨_, hfit, ?_⟩
  simp only [hmem, hsize]
  decide

end Vectorizer

end CodeAppraisal.Classifier
