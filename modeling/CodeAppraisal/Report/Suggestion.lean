import CodeAppraisal.Report.Record

/-!
Suggestions for a text, each from a rule of its own on the measures.
-/
namespace CodeAppraisal

open Quantity

inductive Maintainability where
  | low
  | moderate
  | good
  deriving DecidableEq, Repr

inductive Suggestion where
  | fixSyntax (fault : String)
  | highAverageComplexity
  | highMaximumComplexity
  | maintainability (level : Maintainability)
  | fewComments
  | wellDocumented
  | smells (count : Nat)
  | smell (description : String)
  | cleanCode
  deriving DecidableEq, Repr

def Suggestion.message : Suggestion → String
  | .fixSyntax fault => s!"Fix syntax errors: {fault}"
  | .highAverageComplexity =>
    "⚠️ High average complexity - consider refactoring complex functions"
  | .highMaximumComplexity =>
    "🔴 Very high maximum complexity - break down complex functions"
  | .maintainability .low => "🔴 Low maintainability - major refactoring recommended"
  | .maintainability .moderate => "⚠️ Moderate maintainability - some refactoring suggested"
  | .maintainability .good => "✅ Good maintainability!"
  | .fewComments => "📝 Low comment ratio - add more documentation"
  | .wellDocumented => "✅ Well documented code!"
  | .smells count => s!"🔍 Code smells detected: {count} issues found"
  | .smell description => s!"  - {description}"
  | .cleanCode => "🌟 Clean code! Keep up the good work!"

variable {α : Type} [Quantity α]

def Maintainability.ofIndex (index : α) : Maintainability :=
  if lt index 20.0 then .low else if lt index 50.0 then .moderate else .good

def commentSuggestions (ratio : α) : List Suggestion :=
  if lt ratio 0.1 then [.fewComments] else if lt 0.3 ratio then [.wellDocumented] else []

def smellSuggestions (descriptions : List String) : List Suggestion :=
  if descriptions.isEmpty then []
  else .smells descriptions.length :: (descriptions.take 3).map .smell

def CodeMetrics.suggestions (m : CodeMetrics α) : List Suggestion :=
  (if lt 10.0 m.averageComplexity then [.highAverageComplexity] else []) ++
  (if m.maxComplexity > 15 then [.highMaximumComplexity] else []) ++
  [.maintainability (.ofIndex m.maintainabilityIndex)] ++
  commentSuggestions m.commentRatio ++
  smellSuggestions m.codeSmells ++
  (if m.codeSmells.isEmpty && lt 50.0 m.maintainabilityIndex then [.cleanCode] else [])

def MetricsRecord.suggestions : MetricsRecord α → List Suggestion
  | .analyzed m => m.suggestions
  | .failed _ message _ => [.fixSyntax message]

end CodeAppraisal
