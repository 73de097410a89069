import CodeAppraisal.Classifier.Forest
import CodeAppraisal.Proofs.Classifier.Termination
import CodeAppraisal.Proofs.ExactQuantity

/-!
This module shows that in exact arithmetic every split leaves samples on both sides, so that the
leaves of a grown tree and the mean of several trees hold probabilities that sum up to one.
-/
namespace CodeAppraisal.Classifier

open Quantity DecisionTree

variable {K : Type} [Field K] [LinearOrder K] [IsStrictOrderedRing K] [ElementaryFunctions K]

theorem le_midpoint {here next : K} (h : here < next) : here ≤ midpoint here next := by
  unfold midpoint
  norm_num
  linarith

theorem midpoint_lt {here next : K} (h : here < next) : midpoint here next < next := by
  unfold midpoint
  norm_num
  linarith

theorem separable_exact (samples : List (Sample K)) : Separable samples := by
  intro s _ s' _ f hgap
  rw [le_eq_decide, decide_eq_false_iff_not, not_le] at hgap
  constructor
  . rw [le_eq_decide, decide_eq_true_eq]
    exact le_midpoint hgap
  . rw [le_eq_decide, decide_eq_false_iff_not, not_le]
    exact midpoint_lt hgap

structure Shares (classes : Nat) (total : K) (parts : List K) : Prop where
  length_eq : parts.length = classes
  nonneg : ∀ p ∈ parts, 0 ≤ p
  sum_eq : parts.sum = total

theorem addUp_histogram {classes : Nat} {labels : List Nat} (h : ∀ l ∈ labels, l < classes) :
    addUp (histogram classes labels) = labels.length := by
  have hcard := Multiset.sum_count_eq_card (s := Finset.range classes)
    (m := (labels : Multiset Nat)) (by simpa using h)
  simpa [Finset.sum, Multiset.range, histogram, addUp_eq_sum] using hcard

theorem shares_of_counts {counts : List Nat} (h : 0 < addUp counts) :
    Shares counts.length 1
      (counts.map fun c =>
        if addUp counts > 0 then (ofNat c / ofNat (addUp counts) : K) else 0.0) := by
  have hpos : (0 : K) < (addUp counts : K) := by exact_mod_cast h
  simp only [gt_iff_lt, h, ↓reduceIte, ofNat_eq_cast]
  constructor
  . rw [List.length_map]
  . intro p hp
    obtain ⟨c, _, rfl⟩ := List.mem_map.mp hp
    positivity
  . simp only [div_eq_mul_inv, List.sum_map_mul_right]
    rw [← Nat.cast_list_sum, ← addUp_eq_sum]
    exact mul_inv_cancel₀ hpos.ne'

theorem DecisionTree.Grown.shares {growth : Growth} {samples : List (Sample K)}
    {t : DecisionTree K} (h : Grown growth samples t) (hsamples : samples ≠ [])
    (hlabels : ∀ s ∈ samples, s.label < growth.classes) (row : Array K) :
    Shares growth.classes 1 (t.predict row) := by
  induction h with
  | @leaf samples hends =>
    have hsum : addUp (histogram growth.classes (samples.map (·.label))) = samples.length := by
      rw [addUp_histogram, List.length_map]
      simpa using hlabels
    have hpos := List.length_pos_of_ne_nil hsamples
    have hleaf := shares_of_counts (K := K) (by rwa [← hsum] at hpos)
    rw [length_histogram] at hleaf
    exact hleaf
  | @branch samples order split left right horder hsplit hleft hright ihleft ihright =>
    -- both sides have samples, whichever of them the row goes to
    obtain ⟨⟨l, hl, hgoesl⟩, r, hr, hgoesr⟩ :=
      bestSplit_separates (separable_exact samples) hsplit
    unfold predict
    split
    . apply ihleft
      . exact List.ne_nil_of_mem (List.mem_filter.mpr ⟨hl, hgoesl⟩)
      . intro s hs
        exact hlabels s (List.mem_filter.mp hs).1
    . apply ihright
      . exact List.ne_nil_of_mem (List.mem_filter.mpr ⟨hr, by simp [hgoesr]⟩)
      . intro s hs
        exact hlabels s (List.mem_filter.mp hs).1

omit [LinearOrder K] [IsStrictOrderedRing K] [ElementaryFunctions K] in
theorem sum_updateAlong_add {xs ys : List K} (h : xs.length = ys.length) :
    (updateAlong (· + ·) xs ys).sum = xs.sum + ys.sum := by
  fun_induction updateAlong (fun a b : K => a + b) xs ys with
  | case1 x xs y ys ih =>
    rw [List.sum_cons, List.sum_cons, List.sum_cons, ih (by simpa using h)]
    ring
  | case2 xs ys hcons =>
    cases xs with
    | nil => simp [List.length_eq_zero_iff.mp h.symm]
    | cons x xs =>
      cases ys with
      | nil => cases h
      | cons y ys => exact absurd rfl (hcons x xs y ys rfl)

omit [ElementaryFunctions K] in
theorem nonneg_updateAlong_add {xs ys : List K} (hxs : ∀ x ∈ xs, 0 ≤ x) (hys : ∀ y ∈ ys, 0 ≤ y) :
    ∀ z ∈ updateAlong (· + ·) xs ys, 0 ≤ z := by
  fun_induction updateAlong (fun a b : K => a + b) xs ys with
  | case1 x xs y ys ih =>
    rw [List.forall_mem_cons] at hxs hys ⊢
    exact ⟨add_nonneg hxs.1 hys.1, ih hxs.2 hys.2⟩
  | case2 => exact hxs

omit [ElementaryFunctions K] in
theorem Shares.updateAlong_add {classes : Nat} {a b : K} {xs ys : List K}
    (hxs : Shares classes a xs) (hys : Shares classes b ys) :
    Shares classes (a + b) (updateAlong (· + ·) xs ys) := by
  constructor
  . rw [length_updateAlong, hxs.length_eq]
  . exact nonneg_updateAlong_add hxs.nonneg hys.nonneg
  . rw [sum_updateAlong_add (hxs.length_eq.trans hys.length_eq.symm), hxs.sum_eq, hys.sum_eq]

omit [ElementaryFunctions K] in
theorem Shares.foldl_updateAlong {classes : Nat} {a : K} {start : List K} {ds : List (List K)}
    (hstart : Shares classes a start) (hds : ∀ d ∈ ds, Shares classes 1 d) :
    Shares classes (a + ds.length) (ds.foldl (updateAlong (· + ·)) start) := by
  induction ds generalizing a start with
  | nil => simpa using hstart
  | cons d ds ih =>
    rw [List.forall_mem_cons] at hds
    rw [List.foldl_cons, List.length_cons]
    have hsum := ih (hstart.updateAlong_add hds.1) hds.2
    have hcount : a + 1 + (ds.length : K) = a + ((ds.length + 1 : Nat) : K) := by
      push_cast
      ring
    rw [← hcount]
    exact hsum

theorem shares_mean {classes : Nat} {ds : List (List K)} (hne : ds ≠ [])
    (hds : ∀ d ∈ ds, Shares classes 1 d) :
    Shares classes 1 ((ds.foldl (updateAlong (· + ·)) (List.replicate classes (0.0 : K))).map
      (· / ofNat ds.length)) := by
  have hzero : Shares classes (0 : K) (List.replicate classes (0.0 : K)) := by
    refine ⟨List.length_replicate, ?_, ?_⟩
    . intro p hp
      rw [List.eq_of_mem_replicate hp]
      norm_num
    . rw [List.sum_replicate]
      norm_num
  obtain ⟨hlength, hnonneg, hsum⟩ := hzero.foldl_updateAlong hds
  have hpos : (0 : K) < (ds.length : K) := by exact_mod_cast List.length_pos_of_ne_nil hne
  constructor
  . rw [List.length_map, hlength]
  . intro p hp
    obtain ⟨q, hq, rfl⟩ := List.mem_map.mp hp
    exact div_nonneg (hnonneg q hq) hpos.le
  . simp only [ofNat_eq_cast, div_eq_mul_inv, List.sum_map_mul_right, List.map_id']
    rw [hsum, zero_add]
    exact mul_inv_cancel₀ hpos.ne'

end CodeAppraisal.Classifier
