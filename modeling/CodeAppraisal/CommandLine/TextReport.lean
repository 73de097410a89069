import CodeAppraisal.Decimal.Fixed
import CodeAppraisal.Report.Analysis

/-!
Reports for people to read.
-/
namespace CodeAppraisal.CommandLine

def hundredths (x : Float) : String := Decimal.fixed 2 x

def metricsLines : MetricsRecord Float → List String
  | .analyzed m =>
    let average := hundredths m.averageComplexity
    let index := hundredths m.maintainabilityIndex
    [s!"  Lines      {m.linesOfCode} total, {m.sourceLines} source, {m.comments} comment, " ++
        s!"{m.blankLines} blank",
      s!"  Complexity {average} avg, {m.maxComplexity} max",
      s!"  MI         {index}",
      s!"  Structure  {m.numFunctions} functions, {m.numClasses} classes, " ++
        s!"{m.numImports} imports"]
  | .failed error message _ => [s!"  {error} {message}"]

def suggestionLines (suggestions : List String) : List String :=
  if suggestions.isEmpty then []
  else ["", "Suggestions"] ++ suggestions.map fun s => s!"  {s}"

def reportLines (r : AnalysisReport Float) : List String :=
  let score := hundredths r.overallScore
  let confidence := hundredths r.prediction.confidence
  ["", r.filename.getD "<stdin>", "",
    s!"  Score      {score} ({r.prediction.rating.name})",
    s!"  Verdict    {r.prediction.label.name} ({confidence}% confidence)"] ++
  metricsLines r.metrics ++ suggestionLines r.suggestions

def ofLines (lines : List String) : String := String.join (lines.map (· ++ "\n"))

def textReport (r : AnalysisReport Float) : String := ofLines (reportLines r)

end CodeAppraisal.CommandLine
