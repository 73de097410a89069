import CodeAppraisal.Proofs.Classifier.Distribution
import CodeAppraisal.Proofs.Classifier.Draws

/-!
This module shows that a grown tree recalls the samples it was grown on: each of them ends in a leaf
with the distribution of the samples that end there, and these are of one class or have one row.
-/
namespace CodeAppraisal.Classifier

open Quantity DecisionTree

section NoSplit

variable {α : Type} [Quantity α]

theorem Split.ne_nil_of_best_eq_none {splits : List (Split α)} (h : best splits = none) :
    splits = [] := by
  -- once there is a best split there is one to the end
  have hgo : ∀ (rest : List (Split α)) (start : Split α),
      rest.foldl better (some start) ≠ none := by
    intro rest
    induction rest with
    | nil => simp
    | cons new rest ih =>
      intro start
      rw [List.foldl_cons, better]
      split <;> apply ih
  cases splits with
  | nil => rfl
  | cons new rest => exact absurd h (hgo rest new)

theorem isChain_of_splitsOf_eq_nil {f : Nat} {left right : List Nat} {values : List (α × Nat)}
    (h : splitsOf f left right values = []) :
    values.IsChain fun a b => le b.1 a.1 = true := by
  fun_induction splitsOf f left right values with
  | case1 left right here label next label' rest left' right' later hle ih =>
    exact .cons_cons hle (ih h)
  | case2 => cases h
  | case3 values left right hshort =>
    cases values with
    | nil => exact .nil
    | cons v rest =>
      cases rest with
      | nil => exact .singleton v
      | cons v' rest => exact absurd rfl (hshort v.1 v.2 v'.1 v'.2 rest)

theorem splitsOn_eq_nil_of_bestSplit {classes tried : Nat} {samples : List (Sample α)}
    {order : List Nat} (htried : 1 ≤ tried) (h : bestSplit classes samples tried order = none)
    {f : Nat} (hf : f ∈ order) : splitsOn classes samples f = [] := by
  -- features without a split are passed over, so only when none has one the search ends empty
  have htake := Split.ne_nil_of_best_eq_none h
  rw [List.take_eq_nil_iff, List.filterMap_eq_nil_iff] at htake
  apply Split.ne_nil_of_best_eq_none
  cases htake with
  | inl hzero => omega
  | inr hnone => exact hnone f hf

end NoSplit

variable {K : Type} [Field K] [LinearOrder K] [IsStrictOrderedRing K] [ElementaryFunctions K]

omit [IsStrictOrderedRing K] in
theorem valuesOf_pairwise (samples : List (Sample K)) (f : Nat) :
    (valuesOf samples f).Pairwise fun a b => a.1 ≤ b.1 := by
  have hsorted := @List.pairwise_mergeSort _ (fun a b : K × Nat => le a.1 b.1)
    (by simpa using fun a b c => le_trans) (by simpa using fun a b => le_total a b)
    (samples.map fun s => (feature s.row f, s.label))
  exact hsorted.imp (by simp)

omit [IsStrictOrderedRing K] in
theorem feature_eq_of_splitsOn {classes f : Nat} {samples : List (Sample K)}
    (h : splitsOn classes samples f = []) {s s' : Sample K} (hs : s ∈ samples)
    (hs' : s' ∈ samples) : feature s.row f = feature s'.row f := by
  have htrans : IsTrans (K × Nat) fun a b => b.1 ≤ a.1 := ⟨fun a b c hba hcb => hcb.trans hba⟩
  rw [splitsOn_eq] at h
  have hdown := ((isChain_of_splitsOf_eq_nil h).imp (S := fun a b => b.1 ≤ a.1) (by simp)).pairwise
  -- values in order, none of which is less than the next, are all the same
  have hsame := (hdown.and (valuesOf_pairwise samples f)).imp (S := fun a b => a.1 = b.1)
    fun hab => le_antisymm hab.2 hab.1
  have : Std.Symm fun a b : K × Nat => a.1 = b.1 := ⟨fun _ _ => Eq.symm⟩
  exact hsame.forall_of_forall (by simp) (mem_valuesOf.mpr ⟨s, hs, rfl⟩)
    (mem_valuesOf.mpr ⟨s', hs', rfl⟩)

namespace DecisionTree

def turns {α : Type} [Quantity α] (row : Array α) : DecisionTree α → List Bool
  | leaf _ => []
  | branch f threshold left right =>
    if le (feature row f) threshold then true :: left.turns row else false :: right.turns row

def companions {α : Type} [Quantity α] (t : DecisionTree α) (samples : List (Sample α))
    (row : Array α) : List (Sample α) :=
  samples.filter fun s => t.turns s.row = t.turns row

def fractions (classes : Nat) (samples : List (Sample K)) : List K :=
  (List.range classes).map fun c => (samples.countP (·.label = c) : K) / samples.length

section Branch

variable {α : Type} [Quantity α] {split : Split α} {left right : DecisionTree α}
  {samples : List (Sample α)} {s : Sample α}

theorem predict_branch : (branch split.feature split.threshold left right).predict s.row =
    if goesLeft split s then left.predict s.row else right.predict s.row := rfl

theorem companions_branch :
    (branch split.feature split.threshold left right).companions samples s.row =
      if goesLeft split s then left.companions (samples.filter (goesLeft split)) s.row
      else right.companions (samples.filter fun s => !goesLeft split s) s.row := by
  cases hs : goesLeft split s with
  | true | false =>
    simp only [↓reduceIte, companions, List.filter_filter, Bool.false_eq_true]
    apply List.filter_congr
    intro s' _
    -- a row that takes another first turn is in neither list
    cases hs' : goesLeft split s' with
    | true | false =>
      unfold goesLeft at hs hs'
      simp [turns, hs, hs']

end Branch

structure Recalls (classes : Nat) (samples : List (Sample K)) (t : DecisionTree K) : Prop where
  predict_eq : ∀ s ∈ samples, t.predict s.row = fractions classes (t.companions samples s.row)
  alike : ∀ s ∈ samples, (∀ s' ∈ t.companions samples s.row, s'.label = s.label) ∨
    ∀ s' ∈ t.companions samples s.row, s'.row = s.row

theorem eq_of_isPure {classes : Nat} {labels : List Nat}
    (h : isPure (histogram classes labels) = true) {l l' : Nat} (hl : l ∈ labels)
    (hl' : l' ∈ labels) (hlt : l < classes) (hlt' : l' < classes) : l = l' := by
  have hmem : ∀ c ∈ labels, c < classes →
      c ∈ (List.range classes).filter fun c => decide (labels.count c > 0) := by
    intro c hc hlt
    simp [hlt, hc]
  have hlength : ((List.range classes).filter fun c => decide (labels.count c > 0)).length ≤ 1 := by
    simpa [isPure, histogram, List.filter_map, Function.comp_def] using h
  generalize ((List.range classes).filter fun c => decide (labels.count c > 0)) = present at *
  cases present with
  | nil => exact absurd (hmem l hl hlt) (by simp)
  | cons c rest =>
    obtain rfl : rest = [] := by simpa using hlength
    rw [List.mem_singleton.mp (hmem l hl hlt), List.mem_singleton.mp (hmem l' hl' hlt')]

omit [IsStrictOrderedRing K] in
theorem ofCounts_histogram {classes : Nat} {samples : List (Sample K)} (hne : samples ≠ [])
    (hlabels : ∀ s ∈ samples, s.label < classes) :
    (ofCounts (histogram classes (samples.map (·.label))) : DecisionTree K) =
      leaf (fractions classes samples) := by
  have hsum : addUp (histogram classes (samples.map (·.label))) = samples.length := by
    rw [addUp_histogram, List.length_map]
    simpa using hlabels
  have hpos := List.length_pos_of_ne_nil hne
  unfold ofCounts fractions
  simp only [hsum, gt_iff_lt, hpos, ↓reduceIte, ofNat_eq_cast]
  simp only [histogram, List.map_map, List.count, List.countP_map, Function.comp_def,
    ← beq_eq_decide]

omit [IsStrictOrderedRing K] in
theorem Ends.class_or_row_eq {growth : Growth} {samples : List (Sample K)}
    (hends : Ends growth samples) (htried : 1 ≤ growth.tried)
    (hrows : ∀ s ∈ samples, s.row.size = growth.features)
    (hlabels : ∀ s ∈ samples, s.label < growth.classes) {s : Sample K} (hs : s ∈ samples) :
    (∀ s' ∈ samples, s'.label = s.label) ∨ ∀ s' ∈ samples, s'.row = s.row := by
  cases hends with
  | few h =>
    left
    intro s' hs'
    obtain ⟨t, rfl⟩ : ∃ t, samples = [t] := List.length_eq_one_iff.mp (by
      have := List.length_pos_of_mem hs
      omega)
    rw [List.mem_singleton.mp hs, List.mem_singleton.mp hs']
  | pure h =>
    left
    intro s' hs'
    exact eq_of_isPure h (List.mem_map_of_mem hs') (List.mem_map_of_mem hs) (hlabels s' hs')
      (hlabels s hs)
  | alike order horder h =>
    right
    intro s' hs'
    apply Array.ext
    . rw [hrows s' hs', hrows s hs]
    . intro f hf hf'
      have hmem : f ∈ order := by
        rw [horder.mem_iff, List.mem_range, ← hrows s hs]
        exact hf'
      have hsame := feature_eq_of_splitsOn (splitsOn_eq_nil_of_bestSplit htried h hmem) hs' hs
      simpa [feature, hf, hf'] using hsame

omit [IsStrictOrderedRing K] in
theorem Grown.recalls {growth : Growth} {samples : List (Sample K)} {t : DecisionTree K}
    (h : Grown growth samples t) (htried : 1 ≤ growth.tried)
    (hrows : ∀ s ∈ samples, s.row.size = growth.features)
    (hlabels : ∀ s ∈ samples, s.label < growth.classes) : Recalls growth.classes samples t := by
  induction h with
  | @leaf samples hends =>
    constructor
    . intro s hs
      rw [ofCounts_histogram (List.ne_nil_of_mem hs) hlabels]
      simp [companions, turns, predict]
    . intro s hs
      rw [ofCounts_histogram (List.ne_nil_of_mem hs) hlabels]
      simpa [companions, turns] using hends.class_or_row_eq htried hrows hlabels hs
  | @branch samples order split left right horder hsplit hleft hright ihleft ihright =>
    have hlefts := ihleft (fun s hs => hrows s (List.mem_filter.mp hs).1)
      (fun s hs => hlabels s (List.mem_filter.mp hs).1)
    have hrights := ihright (fun s hs => hrows s (List.mem_filter.mp hs).1)
      (fun s hs => hlabels s (List.mem_filter.mp hs).1)
    constructor
    . intro s hs
      rw [predict_branch, companions_branch]
      split
      . next hside => exact hlefts.predict_eq s (List.mem_filter.mpr ⟨hs, hside⟩)
      . next hside => exact hrights.predict_eq s (List.mem_filter.mpr ⟨hs, by simpa using hside⟩)
    . intro s hs
      rw [companions_branch]
      split
      . next hside => exact hlefts.alike s (List.mem_filter.mpr ⟨hs, hside⟩)
      . next hside => exact hrights.alike s (List.mem_filter.mpr ⟨hs, by simpa using hside⟩)

theorem Recalls.certain {classes : Nat} {samples : List (Sample K)} {t : DecisionTree K}
    (h : Recalls classes samples t) (hlabels : ∀ s ∈ samples, s.label < classes)
    (hrows : ∀ s ∈ samples, ∀ s' ∈ samples, s.row = s'.row → s.label = s'.label) :
    ∀ s ∈ samples, (t.predict s.row)[s.label]? = some 1 := by
  intro s hs
  have hself : s ∈ t.companions samples s.row := by simp [companions, hs]
  have hclass : ∀ s' ∈ t.companions samples s.row, s'.label = s.label := by
    cases h.alike s hs with
    | inl hclass => exact hclass
    | inr hrow =>
      intro s' hs'
      exact hrows s' (List.mem_filter.mp hs').1 s hs (hrow s' hs')
  have hcount : (t.companions samples s.row).countP (·.label = s.label) =
      (t.companions samples s.row).length := by
    rw [List.countP_eq_length]
    simpa using hclass
  have hne : ((t.companions samples s.row).length : K) ≠ 0 := by
    rw [Nat.cast_ne_zero]
    exact (List.length_pos_of_mem hself).ne'
  rw [h.predict_eq s hs, fractions, List.getElem?_map, List.getElem?_range (hlabels s hs),
    Option.map_some, hcount, div_self hne]

end DecisionTree

/-- Growth ends with a tree that recalls all samples, whatever the shuffles are. -/
theorem grow_recalls {σ : Type} {shuffle : σ → List Nat → List Nat × σ}
    (hshuffle : ∀ state xs, (shuffle state xs).1.Perm xs) {growth : Growth}
    (htried : 1 ≤ growth.tried) {samples : List (Sample K)}
    (hrows : ∀ s ∈ samples, s.row.size = growth.features)
    (hlabels : ∀ s ∈ samples, s.label < growth.classes) (state : σ) :
    ∃ t state', growth.grow shuffle state samples = some (t, state') ∧
      t.Recalls growth.classes samples ∧
      ((∀ s ∈ samples, ∀ s' ∈ samples, s.row = s'.row → s.label = s'.label) →
        ∀ s ∈ samples, (t.predict s.row)[s.label]? = some 1) := by
  obtain ⟨⟨t, state'⟩, hgrow⟩ := growth.exists_grow shuffle state (separable_exact samples)
  have hrecalls := (grow_grown hshuffle hgrow).recalls htried hrows hlabels
  exact ⟨t, state', hgrow, hrecalls, hrecalls.certain hlabels⟩

theorem grow_recalls_four : ∃ (t : DecisionTree ℝ) (g : Generator),
    (Growth.mk 2 2 1).grow Generator.shuffle (.ofSeed 7)
      [⟨#[0, 1], 0⟩, ⟨#[0, 1], 0⟩, ⟨#[0.5, 1], 1⟩, ⟨#[0.5, 0], 0⟩] = some (t, g) ∧
      (t.predict #[0.5, 1])[1]? = some 1 := by
  obtain ⟨t, g, hgrow, _, hcertain⟩ := @grow_recalls ℝ _ _ _ _ _ _ Generator.shuffle_perm
    ⟨2, 2, 1⟩ (by decide) [⟨#[0, 1], 0⟩, ⟨#[0, 1], 0⟩, ⟨#[0.5, 1], 1⟩, ⟨#[0.5, 0], 0⟩]
    (by simp) (by simp) (.ofSeed 7)
  refine ⟨t, g, hgrow, hcertain ?_ ⟨#[0.5, 1], 1⟩ (by simp)⟩
  norm_num

end CodeAppraisal.Classifier
