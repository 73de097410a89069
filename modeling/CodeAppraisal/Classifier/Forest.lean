import CodeAppraisal.Classifier.Basic
import CodeAppraisal.Classifier.DecisionTree
import CodeAppraisal.Classifier.Generator

/-!
Random forests: decision trees grown on random samples with repeats, which answer by their mean.
Each tree has a generator of its own, whose seed is drawn from that of the forest.
-/
namespace CodeAppraisal.Classifier

open Quantity

structure Forest (α : Type) where
  size : Nat
  seed : UInt64
  trees : List (DecisionTree α)
  features : Nat
  classes : Nat
  deriving Repr

def wholeRoot (n : Nat) : Nat :=
  go n
where
  go : Nat → Nat
    | 0 => 0
    | k + 1 => if (k + 1) * (k + 1) ≤ n then k + 1 else go k

namespace Forest

variable {α : Type}

def new (size : Nat) (seed : UInt64) : Forest α := ⟨max size 1, seed, [], 0, 0⟩

def fault? (rows : List (Array α)) (labels : List Nat) : Option ClassifierError :=
  match rows with
  | [] => some .emptyTrainingSet
  | first :: _ =>
    if rows.length ≠ labels.length then some (.lengthMismatch rows.length labels.length)
    else
      match rows.find? (·.size ≠ first.size) with
      | some row => some (.dimensionMismatch first.size row.size)
      | none => if labels.eraseDups.length < 2 then some .singleClass else none

def samplesOf (rows : List (Array α)) (labels : List Nat) : Array (Sample α) :=
  (List.zipWith Sample.mk rows labels).toArray

variable [Quantity α]

def treeOf (growth : Growth) (samples : Array (Sample α)) (seed : UInt64) :
    Option (DecisionTree α) :=
  let (draws, g) := (Generator.ofSeed seed).drawMany samples.size samples.size
  (growth.grow Generator.shuffle g (draws.filterMap (samples[·]?))).map (·.1)

def treesOf (size : Nat) (seed : UInt64) (growth : Growth) (samples : Array (Sample α)) :
    Option (List (DecisionTree α)) :=
  ((Generator.ofSeed seed).draw64 size).1.mapM (treeOf growth samples)

def growthOf (rows : List (Array α)) (labels : List Nat) : Growth :=
  let features := (rows.head?.map Array.size).getD 0
  { features, classes := labels.foldl max 0 + 1, tried := max (wholeRoot features) 1 }

def fit (rows : List (Array α)) (labels : List Nat) : Fitting Option (Forest α) Unit := do
  if let some e := fault? rows labels then throw e
  let growth := growthOf rows labels
  let forest ← get
  let trees ← liftM (treesOf forest.size forest.seed growth (samplesOf rows labels))
  modify fun forest => { forest with trees }
  modify fun forest => { forest with features := growth.features }
  modify fun forest => { forest with classes := growth.classes }

def predict (forest : Forest α) (row : Array α) : Except ClassifierError (List α) :=
  if forest.trees.isEmpty then .error .notFitted
  else if row.size ≠ forest.features then
    .error (.dimensionMismatch forest.features row.size)
  else
    let totals := (forest.trees.map (·.predict row)).foldl (updateAlong (· + ·))
      (List.replicate forest.classes 0.0)
    .ok (totals.map (· / ofNat forest.trees.length))

end Forest

end CodeAppraisal.Classifier
