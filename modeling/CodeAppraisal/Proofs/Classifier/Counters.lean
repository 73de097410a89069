import CodeAppraisal.Proofs.Classifier.BestThreshold
import CodeAppraisal.Proofs.Traversal

/-!
This module carries the search for a threshold out with counters that can run out, and shows that
none does wherever growth goes.
-/
namespace CodeAppraisal.Classifier

open Quantity DecisionTree

section Checked

variable {α : Type} [Quantity α]

def less? : Nat → Option Nat
  | 0 => none
  | n + 1 => some n

def takeOne? (counts : List Nat) (label : Nat) : Option (List Nat) := do
  let n ← counts[label]?
  let fewer ← less? n
  pure (counts.set label fewer)

-- What follows is the growth of a tree once more, with a check of each number that is taken from.

def splitsOf? (f : Nat) (left right : List Nat) : List (α × Nat) → Option (List (Split α))
  | (here, label) :: (next, label') :: rest => do
    let left := left.modify label (· + 1)
    let right ← takeOne? right label
    let later ← splitsOf? f left right ((next, label') :: rest)
    pure (if le next here then later
      else ⟨f, midpoint here next, splitImpurity left right⟩ :: later)
  | _ => pure []

def bestSplitOn? (classes : Nat) (samples : List (Sample α)) (f : Nat) :
    Option (Option (Split α)) := do
  -- there is one pair of neighbours less than there are samples
  let _ ← less? (valuesOf samples f).length
  let splits ← splitsOf? f (List.replicate classes 0)
    (histogram classes ((valuesOf samples f).map (·.2))) (valuesOf samples f)
  pure (Split.best splits)

def bestSplit? (classes : Nat) (samples : List (Sample α)) (tried : Nat) (features : List Nat) :
    Option (Option (Split α)) := do
  -- the features behind the last one that is tried are searched as well
  let found ← features.mapM (bestSplitOn? classes samples)
  pure (Split.best ((found.filterMap id).take tried))

def Growth.grow? {σ : Type} (growth : Growth) (shuffle : σ → List Nat → List Nat × σ) (state : σ)
    (samples : List (Sample α)) : Option (DecisionTree α × σ) :=
  let counts := histogram growth.classes (samples.map (·.label))
  if samples.length < 2 || isPure counts then some (ofCounts counts, state)
  else do
    let (features, state) := shuffle state (List.range growth.features)
    match ← bestSplit? growth.classes samples growth.tried features with
    | none => some (ofCounts counts, state)
    | some split => do
      let (left, state) ← growth |>.grow? shuffle state (samples.filter (goesLeft split))
      let (right, state) ← growth |>.grow? shuffle state (samples.filter fun s => !goesLeft split s)
      some (branch split.feature split.threshold left right, state)
partial_fixpoint

theorem takeOne?_histogram {classes label : Nat} (labels : List Nat) (h : label < classes) :
    takeOne? (histogram classes (label :: labels)) label = some (histogram classes labels) := by
  have hcount : (histogram classes (label :: labels))[label]? = some (labels.count label + 1) := by
    simp [histogram, h]
  have hset : (histogram classes (label :: labels)).set label (labels.count label) =
      (histogram classes (label :: labels)).modify label (· - 1) := by
    rw [List.modify_eq_set_getElem?, hcount]
    rfl
  rw [takeOne?, hcount, Option.bind_eq_bind, Option.bind_some, less?, Option.bind_some, hset,
    modify_histogram_cons]
  rfl

theorem splitsOf?_eq {f classes : Nat} {left : List Nat} {values : List (α × Nat)}
    (hlabels : ∀ v ∈ values, v.2 < classes) :
    splitsOf? f left (histogram classes (values.map (·.2))) values =
      some (splitsOf f left (histogram classes (values.map (·.2))) values) := by
  induction values generalizing left with
  | nil => rfl
  | cons v values ih =>
    cases values with
    | nil => rfl
    | cons w rest =>
      rw [List.forall_mem_cons] at hlabels
      rw [splitsOf?, splitsOf, List.map_cons, takeOne?_histogram _ hlabels.1, modify_histogram_cons,
        Option.bind_eq_bind, Option.bind_some, ih hlabels.2]
      rfl

theorem bestSplitOn?_eq {classes f : Nat} {samples : List (Sample α)} (hne : samples ≠ [])
    (hlabels : ∀ s ∈ samples, s.label < classes) :
    bestSplitOn? classes samples f = some (bestSplitOn classes samples f) := by
  have hvalues : ∀ v ∈ valuesOf samples f, v.2 < classes := by
    intro v hv
    obtain ⟨s, hs, rfl⟩ := mem_valuesOf.mp hv
    exact hlabels s hs
  obtain ⟨n, hlength⟩ : ∃ n, (valuesOf samples f).length = n + 1 := by
    have := List.length_pos_of_ne_nil hne
    rw [(valuesOf_perm samples f).length_eq, List.length_map]
    exact ⟨samples.length - 1, by omega⟩
  unfold bestSplitOn?
  rw [hlength, less?, Option.bind_eq_bind, Option.bind_some, splitsOf?_eq hvalues]
  rfl

theorem bestSplit?_eq {classes : Nat} {samples : List (Sample α)} (hne : samples ≠ [])
    (hlabels : ∀ s ∈ samples, s.label < classes) (tried : Nat) (features : List Nat) :
    bestSplit? classes samples tried features =
      some (bestSplit classes samples tried features) := by
  rw [bestSplit?, mapM_eq_some fun f _ => bestSplitOn?_eq hne hlabels, Option.bind_eq_bind,
    Option.bind_some, List.filterMap_map]
  rfl

theorem Growth.grow?_of_grow {σ : Type} {growth : Growth} {shuffle : σ → List Nat → List Nat × σ}
    {state : σ} {samples : List (Sample α)} {r : DecisionTree α × σ}
    (h : growth.grow shuffle state samples = some r)
    (hlabels : ∀ s ∈ samples, s.label < growth.classes) :
    growth.grow? shuffle state samples = some r := by
  -- growth may not end on all samples, so the induction is on the calls of one that does
  refine Growth.grow.partial_correctness growth shuffle (fun state samples r =>
    (∀ s ∈ samples, s.label < growth.classes) → growth.grow? shuffle state samples = some r)
    ?_ state samples r h hlabels
  intro grow' ih state samples r hr hlabels
  dsimp only at hr
  rw [Growth.grow?]
  dsimp only
  split at hr
  . next hstop => rw [if_pos hstop, hr]
  . next hgo =>
    have hne : samples ≠ [] := by
      rintro rfl
      simp at hgo
    rw [if_neg hgo, bestSplit?_eq hne hlabels, Option.bind_eq_bind, Option.bind_some]
    cases hsplit : bestSplit growth.classes samples growth.tried
        (shuffle state (List.range growth.features)).1 with
    | none =>
      rw [hsplit] at hr
      exact hr
    | some split =>
      rw [hsplit] at hr
      simp only [bind, Option.bind_eq_some_iff, Option.some.injEq] at hr
      obtain ⟨left, hleft, right, hright, hr⟩ := hr
      have hlefts := ih _ _ _ hleft fun s hs => hlabels s (List.mem_filter.mp hs).1
      have hrights := ih _ _ _ hright fun s hs => hlabels s (List.mem_filter.mp hs).1
      dsimp only
      rw [hlefts, Option.bind_eq_bind, Option.bind_some, hrights, Option.bind_some, hr]

end Checked

variable {K : Type} [Field K] [LinearOrder K] [IsStrictOrderedRing K] [ElementaryFunctions K]

theorem bestSplitOn_exact {classes f : Nat} {samples : List (Sample K)}
    (hlabels : ∀ s ∈ samples, s.label < classes) :
    (bestSplitOn classes samples f = none ↔
      ∀ s ∈ samples, ∀ s' ∈ samples, feature s.row f = feature s'.row f) ∧
    (∀ split, bestSplitOn classes samples f = some split ↔ split.IsBest classes samples f) ∧
    (∀ samples', samples.Perm samples' →
      bestSplitOn classes samples' f = bestSplitOn classes samples f) ∧
    (samples ≠ [] → bestSplitOn? classes samples f = some (bestSplitOn classes samples f)) ∧
    ∀ (features tried : Nat) {σ : Type} (shuffle : σ → List Nat → List Nat × σ) (state : σ),
      ∃ r, (Growth.mk features classes tried).grow? shuffle state samples = some r ∧
        (Growth.mk features classes tried).grow shuffle state samples = some r := by
  refine ⟨bestSplitOn_eq_none_iff, fun _ => bestSplitOn_eq_some_iff hlabels,
    fun _ => bestSplitOn_perm hlabels, fun hne => bestSplitOn?_eq hne hlabels, ?_⟩
  intro features tried σ shuffle state
  obtain ⟨r, hgrow⟩ := (Growth.mk features classes tried).exists_grow shuffle state
    (separable_exact samples)
  exact ⟨r, Growth.grow?_of_grow hgrow hlabels, hgrow⟩

theorem bestSplitOn_exact_four : ∃ split : Split ℝ,
    bestSplitOn? 2 [⟨#[3], 0⟩, ⟨#[2], 1⟩, ⟨#[1], 0⟩, ⟨#[2], 1⟩] 0 = some (some split) ∧
      split.IsBest 2 [⟨#[3], 0⟩, ⟨#[2], 1⟩, ⟨#[1], 0⟩, ⟨#[2], 1⟩] 0 ∧
      bestSplitOn 2 [⟨#[1], 0⟩, ⟨#[2], 1⟩, ⟨#[3], 0⟩, ⟨#[2], 1⟩] 0 = some split := by
  obtain ⟨hnone, hsome, hperm, hcounters, _⟩ := @bestSplitOn_exact ℝ _ _ _ _ 2 0
    [⟨#[3], 0⟩, ⟨#[2], 1⟩, ⟨#[1], 0⟩, ⟨#[2], 1⟩] (by simp)
  obtain ⟨split, hsplit⟩ := Option.ne_none_iff_exists'.mp (mt hnone.mp (by
    intro hconstant
    have := hconstant ⟨#[3], 0⟩ (by simp) ⟨#[1], 0⟩ (by simp)
    norm_num [feature] at this))
  refine ⟨split, ?_, (hsome split).mp hsplit, ?_⟩
  . rw [hcounters (by simp), hsplit]
  . rw [hperm _ ?_, hsplit]
    exact (List.Perm.swap _ _ _).trans <| (List.Perm.cons _ (.swap _ _ _)).trans (.swap _ _ _)

end CodeAppraisal.Classifier
