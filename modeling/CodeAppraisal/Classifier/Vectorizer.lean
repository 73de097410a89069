import CodeAppraisal.Classifier.Basic
import CodeAppraisal.Quantity
import CodeAppraisal.Text.Lowercase
import CodeAppraisal.Text.Word
import Std.Data.TreeMap
import Std.Data.TreeSet

/-!
Documents as rows of weights. The terms of a document are its words of two characters and more, and
runs of them; a row has a column for each term of the vocabulary, in alphabetical order.
-/
namespace CodeAppraisal.Classifier

open Quantity

structure RunLengths where
  shortest : Nat
  longest : Nat
  deriving DecidableEq, Repr

namespace RunLengths

def single : RunLengths := ⟨1, 1⟩

def between (shortest longest : Nat) : RunLengths :=
  let shortest := max shortest 1
  ⟨shortest, max longest shortest⟩

end RunLengths

def tokens (document : String) : List String :=
  ((Text.words (Text.lower document.toList)).filter (·.length ≥ 2)).map String.ofList

def runsOf (n : Nat) (tokens : List String) : List String :=
  (List.range (tokens.length + 1 - n)).map fun i =>
    String.intercalate " " ((tokens.drop i).take n)

def termsOf (lengths : RunLengths) (document : String) : List String :=
  let ts := tokens document
  (List.range' lengths.shortest (min lengths.longest ts.length + 1 - lengths.shortest)).flatMap
    fun n => runsOf n ts

def distinctTerms (terms : List String) : List String := (Std.TreeSet.ofList terms).toList

def countOne (counts : Std.TreeMap String Nat) (term : String) : Std.TreeMap String Nat :=
  counts.alter term fun n => some (n.getD 0 + 1)

structure Tally where
  occurrences : Std.TreeMap String Nat := ∅
  documents : Std.TreeMap String Nat := ∅

namespace Tally

def add (tally : Tally) (terms : List String) : Tally where
  documents := (distinctTerms terms).foldl countOne tally.documents
  occurrences := terms.foldl countOne tally.occurrences

def ofDocuments (documents : List (List String)) : Tally := documents.foldl add {}

def ranked (tally : Tally) : List (String × Nat) :=
  tally.occurrences.toList.mergeSort fun a b => b.2 ≤ a.2

def kept (tally : Tally) (limit : Option Nat) : List String :=
  distinctTerms ((tally.ranked.take (limit.getD tally.ranked.length)).map (·.1))

end Tally

structure Vectorizer (α : Type) where
  limit : Option Nat
  lengths : RunLengths
  vocabulary : Std.TreeMap String Nat
  idf : List α
  deriving Repr

namespace Vectorizer

variable {α : Type}

def new (limit : Option Nat) (lengths : RunLengths) : Vectorizer α := ⟨limit, lengths, ∅, []⟩

def size (v : Vectorizer α) : Nat := v.vocabulary.size

def isEmpty (v : Vectorizer α) : Bool := v.vocabulary.isEmpty

variable [Quantity α] {m : Type → Type} [Monad m]

def rarity (total n : Nat) : α := ln ((1.0 + ofNat total) / (1.0 + ofNat n)) + 1.0

def fit (documents : List String) : Fitting m (Vectorizer α) Unit := do
  if documents.isEmpty then throw .emptyTrainingSet
  let v ← get
  let tally := Tally.ofDocuments (documents.map (termsOf v.lengths))
  if tally.occurrences.isEmpty then throw .emptyVocabulary
  let kept := tally.kept v.limit
  modify fun v => { v with vocabulary := .ofList kept.zipIdx }
  modify fun v => { v with
    idf := kept.map fun t => rarity documents.length (tally.documents.getD t 0) }

def countColumn (row : List α) (column : Nat) : List α := row.modify column (· + 1.0)

def normalized (row : List α) : List α :=
  let norm := sqrt (sum (row.map fun x => x * x))
  if lt 0.0 norm then row.map (· / norm) else row

def columnsOf (v : Vectorizer α) (terms : List String) : List Nat :=
  terms.filterMap fun t => v.vocabulary[t]?

def transform (v : Vectorizer α) (document : String) : Except ClassifierError (List α) :=
  if v.isEmpty then .error .notFitted
  else
    let columns := v.columnsOf (termsOf v.lengths document)
    let counted := columns.foldl countColumn (List.replicate v.size 0.0)
    .ok (normalized (updateAlong (· * ·) counted v.idf))

def fitTransform (documents : List String) : Fitting m (Vectorizer α) (List (List α)) := do
  fit documents
  let v ← get
  MonadExcept.ofExcept (documents.mapM v.transform)

end Vectorizer

end CodeAppraisal.Classifier
