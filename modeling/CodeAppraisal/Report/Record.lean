import CodeAppraisal.Metrics.Lines
import CodeAppraisal.Metrics.Complexity
import CodeAppraisal.Metrics.Halstead
import CodeAppraisal.Metrics.Structure
import CodeAppraisal.Metrics.Maintainability
import CodeAppraisal.Smell.Detect

/-!
The measures of a source text in one record.
-/
namespace CodeAppraisal

open Parsing Metrics Quantity

structure CodeMetrics (α : Type) where
  linesOfCode : Nat
  logicalLines : Nat
  sourceLines : Nat
  comments : Nat
  blankLines : Nat
  commentRatio : α
  averageComplexity : α
  maxComplexity : Nat
  maintainabilityIndex : α
  halsteadVolume : α
  halsteadDifficulty : α
  numFunctions : Nat
  numClasses : Nat
  numImports : Nat
  numLoops : Nat
  numConditionals : Nat
  codeSmells : List String
  deriving DecidableEq, Repr

inductive MetricsRecord (α : Type) where
  | analyzed (metrics : CodeMetrics α)
  | failed (error message : String) (linesOfCode : Nat)
  deriving DecidableEq, Repr

namespace MetricsRecord

variable {α : Type}

def syntaxError (message : String) : MetricsRecord α := .failed "Syntax error in code" message 0

def metrics? : MetricsRecord α → Option (CodeMetrics α)
  | .analyzed m => some m
  | .failed .. => none

def isError : MetricsRecord α → Bool
  | .analyzed _ => false
  | .failed .. => true

def linesOfCode : MetricsRecord α → Nat
  | .analyzed m => m.linesOfCode
  | .failed _ _ n => n

end MetricsRecord

variable {α : Type} [Quantity α]

def CodeMetrics.ofModule (thresholds : SmellThresholds) (m : SourceModule) : CodeMetrics α :=
  let lines := lineCounts m
  let complexity := Metrics.complexity m
  let halstead := Metrics.halstead m
  let structure_ := structureCounts m
  let volume : α := halstead.volume
  { linesOfCode := lines.linesOfCode
    logicalLines := lines.logicalLines
    sourceLines := lines.sourceLines
    comments := lines.comments
    blankLines := lines.blank
    commentRatio := lines.commentRatio
    averageComplexity := round2 complexity.average
    maxComplexity := complexity.max
    maintainabilityIndex :=
      round2 (maintainability volume complexity.total lines.logicalLines lines.commentPercentage)
    halsteadVolume := round2 volume
    halsteadDifficulty := round2 halstead.difficulty
    numFunctions := structure_.functions
    numClasses := structure_.classes
    numImports := structure_.imports
    numLoops := structure_.loops
    numConditionals := structure_.conditionals
    codeSmells := (smells thresholds m).map Smell.message }

def MetricsRecord.ofParse (thresholds : SmellThresholds) :
    Except Fault SourceModule → MetricsRecord α
  | .ok m => .analyzed (CodeMetrics.ofModule thresholds m)
  | .error f => .syntaxError f.message

def MetricsRecord.ofString (thresholds : SmellThresholds) (code : String) : MetricsRecord α :=
  .ofParse thresholds (SourceModule.ofString code)

end CodeAppraisal
