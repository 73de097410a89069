import CodeAppraisal.Classifier.Forest
import CodeAppraisal.Classifier.Samples
import CodeAppraisal.Classifier.Vectorizer

/-!
The classifier of code quality: the words and pairs of words of a text, weighed, and a forest over
them.
-/
namespace CodeAppraisal.Classifier

open Quantity

structure ClassProbabilities (α : Type) where
  bad : α
  good : α
  deriving DecidableEq, Repr

structure QualityClassifier (α : Type) where
  vectorizer : Vectorizer α
  forest : Forest α
  deriving Repr

variable {α : Type} [Quantity α]

namespace ClassProbabilities

def label (p : ClassProbabilities α) : Label := if lt p.bad p.good then .good else .bad

def confidence (p : ClassProbabilities α) : α := atLeast p.bad p.good * 100.0

end ClassProbabilities

namespace QualityClassifier

def freshVectorizer : Vectorizer α := Vectorizer.new (some 100) (RunLengths.between 1 2)

def freshForest : Forest α := Forest.new 50 42

def train (documents : List String) (labels : List Label) :
    ExceptT ClassifierError Option (QualityClassifier α) := do
  if documents.length ≠ labels.length then
    throw (.lengthMismatch documents.length labels.length)
  let (rows, vectorizer) ← (Vectorizer.fitTransform documents).result freshVectorizer
  let (_, forest) ← (Forest.fit (rows.map List.toArray) (labels.map Label.index)).result freshForest
  return ⟨vectorizer, forest⟩

def predict (classifier : QualityClassifier α) (code : String) :
    Except ClassifierError (ClassProbabilities α) := do
  let row ← classifier.vectorizer.transform code
  let distribution ← classifier.forest.predict row.toArray
  let of (l : Label) := distribution.getD l.index 0.0
  return ⟨of .bad, of .good⟩

end QualityClassifier

def builtinClassifier : Thunk (Except ClassifierError (QualityClassifier Float)) :=
  Thunk.mk fun _ =>
    let trained := QualityClassifier.train (trainingSamples.map (·.code))
      (trainingSamples.map (·.label))
    trained.run.getD (.error .notFitted)

end CodeAppraisal.Classifier
