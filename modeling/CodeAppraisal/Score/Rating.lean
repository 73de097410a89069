import CodeAppraisal.Quantity

/-!
Grades and verdicts, which are steps on the scale of scores.
-/
namespace CodeAppraisal

open Quantity

inductive Rating where
  | a
  | b
  | c
  | d
  | f
  deriving DecidableEq, Repr

namespace Rating

def name : Rating → String
  | .a => "A"
  | .b => "B"
  | .c => "C"
  | .d => "D"
  | .f => "F"

def all : List Rating := [.a, .b, .c, .d, .f]

def ofScore {α : Type} [Quantity α] (score : α) : Rating :=
  if le 85.0 score then .a
  else if le 70.0 score then .b
  else if le 55.0 score then .c
  else if le 40.0 score then .d
  else .f

end Rating

inductive QualityLabel where
  | good
  | needsImprovement
  | unknown
  deriving DecidableEq, Repr

namespace QualityLabel

def name : QualityLabel → String
  | .good => "good"
  | .needsImprovement => "needs_improvement"
  | .unknown => "unknown"

def all : List QualityLabel := [.good, .needsImprovement, .unknown]

def ofScore {α : Type} [Quantity α] (score : α) : QualityLabel :=
  if le 70.0 score then .good else .needsImprovement

end QualityLabel

end CodeAppraisal
