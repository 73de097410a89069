import CodeAppraisal.Quantity

/-!
Decision trees that are grown until no sample can be told from the others of its leaf. Each split is
the one with the least Gini impurity among those on some features, which are looked at in the order
of a shuffle.
-/
namespace CodeAppraisal.Classifier

open Quantity

structure Sample (α : Type) where
  row : Array α
  label : Nat
  deriving Repr

inductive DecisionTree (α : Type) where
  | leaf (distribution : List α)
  | branch (feature : Nat) (threshold : α) (left right : DecisionTree α)
  deriving Repr

structure Growth where
  features : Nat
  classes : Nat
  tried : Nat

variable {α : Type} [Quantity α]

def feature (row : Array α) (f : Nat) : α := row.getD f 0.0

def histogram (classes : Nat) (labels : List Nat) : List Nat :=
  (List.range classes).map fun c => labels.count c

def gini (counts : List Nat) : α :=
  let total := addUp counts
  if total = 0 then 0.0
  else 1.0 - sum (counts.map fun c =>
    let p : α := ofNat c / ofNat total
    p * p)

def splitImpurity (left right : List Nat) : α :=
  (ofNat (addUp left) * gini left + ofNat (addUp right) * gini right) /
    ofNat (addUp left + addUp right)

def midpoint (here next : α) : α := here + (next - here) / 2.0

structure Split (α : Type) where
  feature : Nat
  threshold : α
  impurity : α
  deriving Repr

def Split.better (best : Option (Split α)) (new : Split α) : Option (Split α) :=
  match best with
  | some old => if lt new.impurity old.impurity then some new else best
  | none => some new

def Split.best (splits : List (Split α)) : Option (Split α) := splits.foldl Split.better none

/--
The splits of some values in order, each with its label; `left` and `right` count the labels before
and from here on. There is one in each gap between values.
-/
def splitsOf (f : Nat) (left right : List Nat) : List (α × Nat) → List (Split α)
  | (here, label) :: (next, label') :: rest =>
    let left := left.modify label (· + 1)
    let right := right.modify label (· - 1)
    let later := splitsOf f left right ((next, label') :: rest)
    if le next here then later
    else ⟨f, midpoint here next, splitImpurity left right⟩ :: later
  | _ => []

def splitsOn (classes : Nat) (samples : List (Sample α)) (f : Nat) : List (Split α) :=
  let values := (samples.map fun s => (feature s.row f, s.label)).mergeSort fun a b => le a.1 b.1
  splitsOf f (List.replicate classes 0) (histogram classes (values.map (·.2))) values

def bestSplitOn (classes : Nat) (samples : List (Sample α)) (f : Nat) : Option (Split α) :=
  Split.best (splitsOn classes samples f)

def bestSplit (classes : Nat) (samples : List (Sample α)) (tried : Nat) (features : List Nat) :
    Option (Split α) :=
  Split.best ((features.filterMap (bestSplitOn classes samples)).take tried)

namespace DecisionTree

def ofCounts (counts : List Nat) : DecisionTree α :=
  let total := addUp counts
  leaf (counts.map fun c => if total > 0 then ofNat c / ofNat total else 0.0)

def isPure (counts : List Nat) : Bool := (counts.filter (· > 0)).length ≤ 1

def goesLeft (split : Split α) (s : Sample α) : Bool :=
  le (feature s.row split.feature) split.threshold

def predict (row : Array α) : DecisionTree α → List α
  | leaf distribution => distribution
  | branch f threshold left right =>
    if le (feature row f) threshold then left.predict row else right.predict row

end DecisionTree

open DecisionTree in
/--
The tree of some samples. Rounding can put a threshold so high that no sample goes right; growth
then goes on with the same samples, and there may be no end to it.
-/
def Growth.grow {σ : Type} (growth : Growth) (shuffle : σ → List Nat → List Nat × σ) (state : σ)
    (samples : List (Sample α)) : Option (DecisionTree α × σ) :=
  let counts := histogram growth.classes (samples.map (·.label))
  if samples.length < 2 || isPure counts then some (ofCounts counts, state)
  else
    let (features, state) := shuffle state (List.range growth.features)
    match bestSplit growth.classes samples growth.tried features with
    | none => some (ofCounts counts, state)
    | some split => do
      let (left, state) ← growth |>.grow shuffle state (samples.filter (goesLeft split))
      let (right, state) ← growth |>.grow shuffle state (samples.filter fun s => !goesLeft split s)
      some (branch split.feature split.threshold left right, state)
partial_fixpoint

end CodeAppraisal.Classifier
