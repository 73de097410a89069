import CodeAppraisal.Proofs.Classifier.GrownTree

/-!
This module shows that growth on some samples ends if the threshold between any two different values
of a feature lies between them: then every split leaves samples on both sides.
-/
namespace CodeAppraisal.Classifier

open Quantity DecisionTree

variable {α : Type} [Quantity α]

def Parted (here next : α) : Prop :=
  le here (midpoint here next) = true ∧ le next (midpoint here next) = false

def Separable (samples : List (Sample α)) : Prop :=
  ∀ s ∈ samples, ∀ s' ∈ samples, ∀ f, le (feature s'.row f) (feature s.row f) = false →
    Parted (feature s.row f) (feature s'.row f)

theorem Separable.subset {samples part : List (Sample α)} (h : Separable samples)
    (hpart : part ⊆ samples) : Separable part :=
  fun s hs s' hs' => h s (hpart hs) s' (hpart hs')

theorem bestSplit_separates {classes tried : Nat} {samples : List (Sample α)} {order : List Nat}
    {split : Split α} (hseparable : Separable samples)
    (h : bestSplit classes samples tried order = some split) :
    (∃ s ∈ samples, goesLeft split s = true) ∧ ∃ s ∈ samples, goesLeft split s = false := by
  obtain ⟨_, before, here, next, after, hvalues, hgap, hthreshold⟩ :=
    mem_splitsOn (bestSplit_mem h).2
  have hmem : ∀ v ∈ before ++ here :: next :: after,
      ∃ s ∈ samples, feature s.row split.feature = v.1 := by
    intro v hv
    rw [← hvalues, mem_valuesOf] at hv
    obtain ⟨s, hs, hsv⟩ := hv
    exact ⟨s, hs, by rw [← hsv]⟩
  obtain ⟨l, hl, hhere⟩ := hmem here (by simp)
  obtain ⟨r, hr, hnext⟩ := hmem next (by simp)
  obtain ⟨hleft, hright⟩ := hseparable l hl r hr split.feature (by rw [hhere, hnext, hgap])
  rw [hhere, hnext, ← hthreshold] at hleft hright
  refine ⟨⟨l, hl, ?_⟩, r, hr, ?_⟩
  . rw [goesLeft, hhere, hleft]
  . rw [goesLeft, hnext, hright]

theorem length_lefts_lt {classes tried : Nat} {samples : List (Sample α)} {order : List Nat}
    {split : Split α} (hseparable : Separable samples)
    (h : bestSplit classes samples tried order = some split) :
    (samples.filter (goesLeft split)).length < samples.length ∧
      (samples.filter fun s => !goesLeft split s).length < samples.length := by
  obtain ⟨⟨l, hl, hleft⟩, r, hr, hright⟩ := bestSplit_separates hseparable h
  rw [List.length_filter_lt_length_iff_exists, List.length_filter_lt_length_iff_exists]
  exact ⟨⟨r, hr, by simp [hright]⟩, l, hl, by simp [hleft]⟩

theorem Growth.exists_grow {σ : Type} (growth : Growth) (shuffle : σ → List Nat → List Nat × σ)
    (state : σ) {samples : List (Sample α)} (hseparable : Separable samples) :
    ∃ r, growth.grow shuffle state samples = some r := by
  rw [Growth.grow]
  split
  . exact ⟨_, rfl⟩
  . dsimp only
    split
    . exact ⟨_, rfl⟩
    . next split hsplit =>
      have hlength := length_lefts_lt hseparable hsplit
      obtain ⟨l, hleft⟩ := growth.exists_grow shuffle
        (shuffle state (List.range growth.features)).2
        (hseparable.subset List.filter_sublist.subset)
      obtain ⟨r, hright⟩ := growth.exists_grow shuffle l.2
        (hseparable.subset List.filter_sublist.subset)
      exact ⟨_, by rw [hleft, Option.bind_eq_bind, Option.bind_some, hright]; rfl⟩
termination_by samples.length
decreasing_by
  . exact hlength.1
  . exact hlength.2

end CodeAppraisal.Classifier
