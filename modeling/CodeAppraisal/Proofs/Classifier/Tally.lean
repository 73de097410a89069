import CodeAppraisal.Classifier.Vectorizer

/-!
This module says what a tally of documents has counted, and where the terms that are kept end up:
in strictly alphabetical order, each with its place as its column.
-/
namespace CodeAppraisal.Classifier

open Std

theorem compare_eq_lt_iff {a b : String} : compare a b = .lt ↔ a < b := by
  simp only [compare, String.compare, compareOfLessAndEq]
  split
  . next h => simp [h]
  . next h =>
    split
    . simp [h]
    . simp [h]

theorem mem_distinctTerms {terms : List String} {t : String} :
    t ∈ distinctTerms terms ↔ t ∈ terms := by
  unfold distinctTerms
  rw [TreeSet.mem_toList, TreeSet.mem_ofList, List.contains_iff_mem]

theorem distinctTerms_pairwise (terms : List String) : (distinctTerms terms).Pairwise (· < ·) := by
  apply TreeSet.ordered_toList.imp
  intro a b h
  exact compare_eq_lt_iff.mp h

theorem distinctTerms_nodup (terms : List String) : (distinctTerms terms).Nodup := by
  apply (distinctTerms_pairwise terms).imp
  intro a b hlt heq
  exact String.lt_irrefl b (heq ▸ hlt)

theorem count_distinctTerms (terms : List String) (t : String) :
    (distinctTerms terms).count t = if t ∈ terms then 1 else 0 := by
  rw [(distinctTerms_nodup terms).count]
  simp only [mem_distinctTerms]

theorem length_distinctTerms {terms : List String} (h : terms.Nodup) :
    (distinctTerms terms).length = terms.length := by
  apply List.Perm.length_eq
  rw [List.perm_ext_iff_of_nodup (distinctTerms_nodup terms) h]
  exact fun t => mem_distinctTerms

theorem getD_countOne (counts : TreeMap String Nat) (s t : String) :
    (countOne counts s).getD t 0 = counts.getD t 0 + if s = t then 1 else 0 := by
  unfold countOne
  rw [TreeMap.getD_alter]
  by_cases h : s = t
  . subst h
    simp [TreeMap.getD_eq_getD_getElem?]
  . simp [h]

theorem getD_foldl_countOne (terms : List String) (counts : TreeMap String Nat) (t : String) :
    (terms.foldl countOne counts).getD t 0 = counts.getD t 0 + terms.count t := by
  induction terms generalizing counts with
  | nil => simp
  | cons s terms ih =>
    rw [List.foldl_cons, ih, getD_countOne, List.count_cons]
    simp only [beq_iff_eq]
    omega

theorem mem_foldl_countOne (terms : List String) (counts : TreeMap String Nat) (t : String) :
    t ∈ terms.foldl countOne counts ↔ t ∈ counts ∨ t ∈ terms := by
  induction terms generalizing counts with
  | nil => simp
  | cons s terms ih =>
    rw [List.foldl_cons, ih, countOne, TreeMap.mem_alter]
    by_cases h : s = t
    . simp [h]
    . simp [h, Ne.symm h]

namespace Tally

theorem getD_documents (documents : List (List String)) (t : String) :
    (ofDocuments documents).documents.getD t 0 = documents.countP (t ∈ ·) := by
  suffices h : ∀ tally : Tally, (documents.foldl add tally).documents.getD t 0 =
      tally.documents.getD t 0 + documents.countP (t ∈ ·) by
    unfold ofDocuments
    rw [h]
    simp
  induction documents with
  | nil => simp
  | cons terms documents ih =>
    intro tally
    rw [List.foldl_cons, ih, List.countP_cons]
    simp only [add, getD_foldl_countOne, count_distinctTerms, decide_eq_true_eq]
    omega

theorem getD_occurrences (documents : List (List String)) (t : String) :
    (ofDocuments documents).occurrences.getD t 0 = documents.flatten.count t := by
  suffices h : ∀ tally : Tally, (documents.foldl add tally).occurrences.getD t 0 =
      tally.occurrences.getD t 0 + documents.flatten.count t by
    unfold ofDocuments
    rw [h]
    simp
  induction documents with
  | nil => simp
  | cons terms documents ih =>
    intro tally
    rw [List.foldl_cons, ih, List.flatten_cons, List.count_append]
    simp only [add, getD_foldl_countOne]
    omega

theorem mem_occurrences (documents : List (List String)) (t : String) :
    t ∈ (ofDocuments documents).occurrences ↔ ∃ terms ∈ documents, t ∈ terms := by
  suffices h : ∀ tally : Tally, t ∈ (documents.foldl add tally).occurrences ↔
      t ∈ tally.occurrences ∨ ∃ terms ∈ documents, t ∈ terms by
    unfold ofDocuments
    rw [h]
    simp
  induction documents with
  | nil => simp
  | cons terms documents ih =>
    intro tally
    rw [List.foldl_cons, ih]
    simp only [add, mem_foldl_countOne, List.mem_cons, exists_eq_or_imp, or_assoc]

theorem isEmpty_occurrences (documents : List (List String)) :
    (ofDocuments documents).occurrences.isEmpty = true ↔ ∀ terms ∈ documents, terms = [] := by
  rw [TreeMap.isEmpty_iff_forall_not_mem]
  simp only [mem_occurrences, not_exists, not_and]
  constructor
  . intro h terms hterms
    apply List.eq_nil_iff_forall_not_mem.mpr
    intro t
    exact h t terms hterms
  . intro h t terms hterms
    rw [h terms hterms]
    exact List.not_mem_nil

theorem kept_ne_nil {tally : Tally} {limit : Option Nat} (hlimit : limit ≠ some 0)
    (h : tally.occurrences.isEmpty = false) : tally.kept limit ≠ [] := by
  have hlength : 0 < tally.ranked.length := by
    rw [ranked, List.length_mergeSort, TreeMap.length_toList]
    rw [TreeMap.isEmpty_eq_size_eq_zero, beq_eq_false_iff_ne] at h
    omega
  have htake : (tally.ranked.take (limit.getD tally.ranked.length)).map (·.1) ≠ [] := by
    apply List.ne_nil_of_length_pos
    rw [List.length_map, List.length_take]
    cases limit with
    | none => simpa using hlength
    | some n =>
      have hn : n ≠ 0 := fun hn => hlimit (hn ▸ rfl)
      rw [Option.getD_some]
      omega
  obtain ⟨t, ht⟩ := List.exists_mem_of_ne_nil _ htake
  exact List.ne_nil_of_mem (mem_distinctTerms.mpr ht)

theorem kept_pairwise (tally : Tally) (limit : Option Nat) :
    (tally.kept limit).Pairwise (· < ·) := distinctTerms_pairwise _

end Tally

theorem lt_iff_of_pairwise {terms : List String} (h : terms.Pairwise (· < ·)) {s t : String}
    {c d : Nat} (hs : terms[c]? = some s) (ht : terms[d]? = some t) : c < d ↔ s < t := by
  obtain ⟨hc, rfl⟩ := List.getElem?_eq_some_iff.mp hs
  obtain ⟨hd, rfl⟩ := List.getElem?_eq_some_iff.mp ht
  rw [List.pairwise_iff_getElem] at h
  constructor
  . exact h c d hc hd
  . intro hlt
    apply Nat.lt_of_not_le
    intro hle
    cases Nat.lt_or_eq_of_le hle with
    | inl hgt => exact String.lt_asymm hlt (h d c hd hc hgt)
    | inr heq =>
      subst heq
      exact String.lt_irrefl _ hlt

theorem zipIdx_pairwise {terms : List String} (h : terms.Pairwise (· < ·)) :
    terms.zipIdx.Pairwise fun a b => ¬ compare a.1 b.1 = .eq := by
  have hmap : (terms.zipIdx.map Prod.fst).Pairwise (· < ·) := by rwa [List.zipIdx_map_fst]
  apply (List.pairwise_map.mp hmap).imp
  intro a b hlt heq
  rw [compare_eq_lt_iff.mpr hlt] at heq
  cases heq

theorem getElem?_ofList_zipIdx {terms : List String} (h : terms.Pairwise (· < ·)) (t : String)
    (c : Nat) : (TreeMap.ofList terms.zipIdx)[t]? = some c ↔ terms[c]? = some t := by
  rw [← List.mk_mem_zipIdx_iff_getElem?]
  constructor
  . intro hlookup
    -- a term that is not listed has no column, and one that is has no other than its place
    by_cases hmem : t ∈ terms
    . obtain ⟨c', hc'⟩ := List.mem_iff_getElem?.mp hmem
      have hpair := List.mk_mem_zipIdx_iff_getElem?.mpr hc'
      rw [TreeMap.getElem?_ofList_of_mem ReflCmp.compare_self (zipIdx_pairwise h) hpair] at hlookup
      injection hlookup with hc
      rwa [← hc]
    . rw [TreeMap.getElem?_ofList_of_contains_eq_false (by simpa using hmem)] at hlookup
      cases hlookup
  . exact TreeMap.getElem?_ofList_of_mem ReflCmp.compare_self (zipIdx_pairwise h)

theorem size_ofList_zipIdx {terms : List String} (h : terms.Pairwise (· < ·)) :
    (TreeMap.ofList terms.zipIdx : TreeMap String Nat).size = terms.length := by
  rw [TreeMap.size_ofList (zipIdx_pairwise h), List.length_zipIdx]

end CodeAppraisal.Classifier
