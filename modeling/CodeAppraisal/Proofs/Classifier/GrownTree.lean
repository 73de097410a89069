import CodeAppraisal.Classifier.DecisionTree

/-!
This module describes the trees that can be grown on some samples whatever the shuffles are, and
shows that such a tree asks for no feature and names no class that does not exist.
-/
namespace CodeAppraisal.Classifier

open Quantity

variable {α : Type} [Quantity α]

namespace Split

theorem best_mem {splits : List (Split α)} {s : Split α} (h : best splits = some s) :
    s ∈ splits := by
  -- a fold that starts from any split ends with that one or with one of the list
  suffices hgo : ∀ start, splits.foldl better start = some s → start = some s ∨ s ∈ splits by
    cases hgo none h with
    | inl hnone => cases hnone
    | inr hmem => exact hmem
  clear h
  induction splits with
  | nil =>
    intro start h
    exact .inl h
  | cons new rest ih =>
    intro start h
    rw [List.foldl_cons] at h
    cases ih (better start new) h with
    | inl hbetter =>
      unfold better at hbetter
      split at hbetter
      . split at hbetter
        . injection hbetter with hnew
          simp [hnew]
        . exact .inl hbetter
      . injection hbetter with hnew
        simp [hnew]
    | inr hmem => exact .inr (List.mem_cons_of_mem new hmem)

def InGap (values : List (α × Nat)) (s : Split α) : Prop :=
  ∃ before here next after, values = before ++ here :: next :: after ∧
    le next.1 here.1 = false ∧ s.threshold = midpoint here.1 next.1

end Split

theorem mem_splitsOf {f : Nat} {left right : List Nat} {values : List (α × Nat)} {s : Split α}
    (h : s ∈ splitsOf f left right values) : s.feature = f ∧ s.InGap values := by
  fun_induction splitsOf f left right values with
  | case1 left right here label next label' rest left' right' later hle ih =>
    obtain ⟨hfeature, before, here', next', after, hvalues, hgap⟩ := ih h
    exact ⟨hfeature, (here, label) :: before, here', next', after, by rw [hvalues]; rfl, hgap⟩
  | case2 left right here label next label' rest left' right' later hle ih =>
    cases List.mem_cons.mp h with
    | inl hnew =>
      rw [hnew]
      exact ⟨rfl, [], (here, label), (next, label'), rest, rfl, by simpa using hle, rfl⟩
    | inr hlater =>
      obtain ⟨hfeature, before, here', next', after, hvalues, hgap⟩ := ih hlater
      exact ⟨hfeature, (here, label) :: before, here', next', after, by rw [hvalues]; rfl, hgap⟩
  | case3 => simp at h

def valuesOf (samples : List (Sample α)) (f : Nat) : List (α × Nat) :=
  (samples.map fun s => (feature s.row f, s.label)).mergeSort fun a b => le a.1 b.1

theorem valuesOf_perm (samples : List (Sample α)) (f : Nat) :
    (valuesOf samples f).Perm (samples.map fun s => (feature s.row f, s.label)) :=
  List.mergeSort_perm _ _

theorem mem_valuesOf {samples : List (Sample α)} {f : Nat} {v : α × Nat} :
    v ∈ valuesOf samples f ↔ ∃ s ∈ samples, (feature s.row f, s.label) = v := by
  rw [(valuesOf_perm samples f).mem_iff, List.mem_map]

theorem splitsOn_eq (classes : Nat) (samples : List (Sample α)) (f : Nat) :
    splitsOn classes samples f = splitsOf f (histogram classes [])
      (histogram classes ((valuesOf samples f).map (·.2))) (valuesOf samples f) := by
  have hnone : histogram classes [] = List.replicate classes 0 := by
    simp [histogram, List.map_const']
  rw [hnone]
  rfl

theorem mem_splitsOn {classes f : Nat} {samples : List (Sample α)} {s : Split α}
    (h : s ∈ splitsOn classes samples f) : s.feature = f ∧ s.InGap (valuesOf samples f) := by
  rw [splitsOn_eq] at h
  exact mem_splitsOf h

theorem bestSplit_mem {classes tried : Nat} {samples : List (Sample α)} {features : List Nat}
    {s : Split α} (h : bestSplit classes samples tried features = some s) :
    s.feature ∈ features ∧ s ∈ splitsOn classes samples s.feature := by
  unfold bestSplit at h
  have hmem := List.mem_of_mem_take (Split.best_mem h)
  obtain ⟨f, hf, hbest⟩ := List.mem_filterMap.mp hmem
  have hon := Split.best_mem hbest
  obtain ⟨hfeature, _⟩ := mem_splitsOn hon
  rw [hfeature]
  exact ⟨hf, hon⟩

namespace DecisionTree

inductive Ends (growth : Growth) (samples : List (Sample α)) : Prop where
  | few (h : samples.length < 2)
  | pure (h : isPure (histogram growth.classes (samples.map (·.label))) = true)
  | alike (order : List Nat) (horder : order.Perm (List.range growth.features))
      (h : bestSplit growth.classes samples growth.tried order = none)

inductive Grown (growth : Growth) : List (Sample α) → DecisionTree α → Prop where
  | leaf {samples : List (Sample α)} (hends : Ends growth samples) :
      Grown growth samples (ofCounts (histogram growth.classes (samples.map (·.label))))
  | branch {samples : List (Sample α)} {order : List Nat} {split : Split α}
      {left right : DecisionTree α} (horder : order.Perm (List.range growth.features))
      (hsplit : bestSplit growth.classes samples growth.tried order = some split)
      (hleft : Grown growth (samples.filter (goesLeft split)) left)
      (hright : Grown growth (samples.filter fun s => !goesLeft split s) right) :
      Grown growth samples (branch split.feature split.threshold left right)

theorem grow_grown {σ : Type} {shuffle : σ → List Nat → List Nat × σ}
    (hshuffle : ∀ state xs, (shuffle state xs).1.Perm xs) {growth : Growth} {state state' : σ}
    {samples : List (Sample α)} {t : DecisionTree α}
    (h : growth.grow shuffle state samples = some (t, state')) : Grown growth samples t := by
  -- what holds of a call holds of the calls above it, so no measure is needed
  refine Growth.grow.partial_correctness growth shuffle
    (fun _ samples r => Grown growth samples r.1) ?_ state samples _ h
  intro grow' ih state samples r hr
  have horder := hshuffle state (List.range growth.features)
  dsimp only at hr
  split at hr
  . next hstop =>
    injection hr with hr
    rw [← hr]
    apply Grown.leaf
    rw [Bool.or_eq_true, decide_eq_true_eq] at hstop
    cases hstop with
    | inl hfew => exact .few hfew
    | inr hpure => exact .pure hpure
  . split at hr
    . next hnone =>
      injection hr with hr
      rw [← hr]
      exact .leaf (.alike _ horder hnone)
    . next split hsplit =>
      simp only [bind, Option.bind_eq_some_iff, Option.some.injEq] at hr
      obtain ⟨left, hleft, right, hright, hr⟩ := hr
      rw [← hr]
      exact .branch horder hsplit (ih _ _ _ hleft) (ih _ _ _ hright)

def reads (row : Array α) : DecisionTree α → List Nat
  | leaf _ => []
  | branch f threshold left right =>
    f :: if le (feature row f) threshold then left.reads row else right.reads row

inductive Within (features classes : Nat) : DecisionTree α → Prop where
  | leaf {distribution : List α} (h : distribution.length = classes) :
      Within features classes (leaf distribution)
  | branch {f : Nat} {threshold : α} {left right : DecisionTree α} (h : f < features)
      (hleft : Within features classes left) (hright : Within features classes right) :
      Within features classes (branch f threshold left right)

theorem length_histogram (classes : Nat) (labels : List Nat) :
    (histogram classes labels).length = classes := by
  simp [histogram]

theorem Grown.within {growth : Growth} {samples : List (Sample α)} {t : DecisionTree α}
    (h : Grown growth samples t) : Within growth.features growth.classes t := by
  induction h with
  | leaf hends =>
    apply Within.leaf
    rw [List.length_map, length_histogram]
  | branch horder hsplit hleft hright ihleft ihright =>
    apply Within.branch
    . have hfeature := horder.mem_iff.mp (bestSplit_mem hsplit).1
      exact List.mem_range.mp hfeature
    . exact ihleft
    . exact ihright

theorem Within.length_predict {features classes : Nat} {t : DecisionTree α}
    (h : Within features classes t) (row : Array α) : (t.predict row).length = classes := by
  induction h with
  | leaf h => exact h
  | branch h hleft hright ihleft ihright =>
    unfold predict
    split
    . exact ihleft
    . exact ihright

theorem Within.reads_lt {features classes : Nat} {t : DecisionTree α}
    (h : Within features classes t) (row : Array α) : ∀ f ∈ t.reads row, f < features := by
  induction h with
  | leaf h => simp [reads]
  | branch h hleft hright ihleft ihright =>
    intro f hf
    unfold reads at hf
    cases List.mem_cons.mp hf with
    | inl heq => rw [heq]; exact h
    | inr hrest =>
      split at hrest
      . exact ihleft f hrest
      . exact ihright f hrest

end DecisionTree

end CodeAppraisal.Classifier
