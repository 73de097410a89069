import CodeAppraisal.Features

/-!
Quality scores from 0 to 100. Where the text could be measured, measures count beside the
probability of good code and the features; else the features count for more.
-/
namespace CodeAppraisal

open Quantity

variable {α : Type} [Quantity α]

def points (earned : Bool) (n : α) : α := if earned then n else 0.0

def FeatureVector.points (f : FeatureVector α) : α :=
  let start : α := 50.0
  start + CodeAppraisal.points f.hasDocstrings 8.0
    + CodeAppraisal.points f.hasTypeHints 8.0
    + CodeAppraisal.points (f.numComments > 0) 4.0
    + CodeAppraisal.points f.hasMainGuard 3.0
    + CodeAppraisal.points f.properNaming 7.0
    + CodeAppraisal.points f.usesComprehension 3.0
    - CodeAppraisal.points (lt 100.0 f.lineLengthAverage) 5.0
    - CodeAppraisal.points (f.numFunctions = 0 && f.numClasses = 0) 10.0

def rawFeatureScore (f : FeatureVector α) (goodProbability : α) : α :=
  goodProbability * 100.0 * 0.4 + f.points * 0.6

def featureScore (f : FeatureVector α) (goodProbability : α) : α :=
  clamp (rawFeatureScore f goodProbability) 0.0 100.0

structure ScoredMeasures (α : Type) where
  maintainabilityIndex : α
  averageComplexity : α
  commentRatio : α
  deriving DecidableEq, Repr

def documentationPoints (f : FeatureVector α) (commentRatio : α) : α :=
  let start : α := 0.0
  start + points f.hasDocstrings 5.0
    + points f.hasTypeHints 5.0
    + points f.properNaming 4.0
    + points (f.numComments > 0) 2.0
    + points (lt 0.1 commentRatio) 4.0

def rawCompositeScore (f : FeatureVector α) (goodProbability : α) (m : ScoredMeasures α) : α :=
  goodProbability * 100.0 * 0.3
    + m.maintainabilityIndex * 0.3
    + atLeast 0.0 (100.0 - m.averageComplexity * 5.0) * 0.2
    + atMost 100.0 (documentationPoints f m.commentRatio * 5.0) * 0.2

def compositeScore (f : FeatureVector α) (goodProbability : α) (m : ScoredMeasures α) : α :=
  clamp (rawCompositeScore f goodProbability m) 0.0 100.0

end CodeAppraisal
