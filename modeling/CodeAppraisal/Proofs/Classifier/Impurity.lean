import CodeAppraisal.Proofs.Classifier.Recall

/-!
This module says what impurity is, of some samples and of the two sides of a threshold, and that the
counters of a search for the best threshold give the impurity of the sides they stand for.
-/
namespace CodeAppraisal.Classifier

open Quantity DecisionTree

section Counters

theorem histogram_perm {classes : Nat} {labels labels' : List Nat} (h : labels.Perm labels') :
    histogram classes labels = histogram classes labels' := by
  simp only [histogram, h.count_eq]

theorem modify_histogram (classes label : Nat) (labels : List Nat) :
    (histogram classes labels).modify label (· + 1) = histogram classes (label :: labels) := by
  apply List.ext_getElem
  . simp [histogram]
  . intro c _ _
    simp only [histogram, List.getElem_modify, List.getElem_map, List.getElem_range,
      List.count_cons, beq_iff_eq]
    split <;> rfl

theorem modify_histogram_cons (classes label : Nat) (labels : List Nat) :
    (histogram classes (label :: labels)).modify label (· - 1) = histogram classes labels := by
  rw [← modify_histogram, List.modify_modify_eq]
  exact List.modify_id label _

end Counters

variable {K : Type} [Field K] [LinearOrder K] [ElementaryFunctions K]

omit [LinearOrder K] [ElementaryFunctions K] in
def impurity (classes : Nat) (samples : List (Sample K)) : K :=
  1 - ((fractions classes samples).map (· ^ 2)).sum

def upTo (samples : List (Sample K)) (f : Nat) (t : K) : List (Sample K) :=
  samples.filter fun s => feature s.row f ≤ t

def above (samples : List (Sample K)) (f : Nat) (t : K) : List (Sample K) :=
  samples.filter fun s => t < feature s.row f

def impurityAt (classes : Nat) (samples : List (Sample K)) (f : Nat) (t : K) : K :=
  ((upTo samples f t).length * impurity classes (upTo samples f t) +
    (above samples f t).length * impurity classes (above samples f t)) / samples.length

theorem length_upTo_add_length_above (samples : List (Sample K)) (f : Nat) (t : K) :
    (upTo samples f t).length + (above samples f t).length = samples.length := by
  have habove : above samples f t = samples.filter fun s => !decide (feature s.row f ≤ t) := by
    simp only [above, ← decide_not, not_le]
  rw [habove]
  exact (List.length_eq_length_filter_add _).symm

variable [IsStrictOrderedRing K]

theorem gini_histogram {classes : Nat} {samples : List (Sample K)} (hne : samples ≠ [])
    (hlabels : ∀ s ∈ samples, s.label < classes) :
    gini (histogram classes (samples.map (·.label))) = impurity classes samples := by
  have htotal : addUp (histogram classes (samples.map (·.label))) = samples.length := by
    rw [addUp_histogram, List.length_map]
    simpa using hlabels
  have hpos := List.length_pos_of_ne_nil hne
  have hone : (1.0 : K) = 1 := by norm_num
  unfold gini impurity fractions
  simp only [htotal, hpos.ne', ↓reduceIte, sum_eq_sum, ofNat_eq_cast, hone]
  simp only [histogram, List.map_map, List.count, List.countP_map, Function.comp_def,
    ← beq_eq_decide, pow_two]

theorem splitImpurity_histogram {classes f : Nat} {samples : List (Sample K)} {t : K}
    (hlabels : ∀ s ∈ samples, s.label < classes) (hleft : upTo samples f t ≠ [])
    (hright : above samples f t ≠ []) :
    splitImpurity (histogram classes ((upTo samples f t).map (·.label)))
      (histogram classes ((above samples f t).map (·.label))) =
        impurityAt classes samples f t := by
  have hupTo : ∀ s ∈ upTo samples f t, s.label < classes := by
    intro s hs
    exact hlabels s (List.mem_filter.mp hs).1
  have habove : ∀ s ∈ above samples f t, s.label < classes := by
    intro s hs
    exact hlabels s (List.mem_filter.mp hs).1
  unfold splitImpurity impurityAt
  rw [gini_histogram hleft hupTo, gini_histogram hright habove,
    addUp_histogram (by simpa using hupTo), addUp_histogram (by simpa using habove)]
  simp only [List.length_map, ofNat_eq_cast, length_upTo_add_length_above]

end CodeAppraisal.Classifier
