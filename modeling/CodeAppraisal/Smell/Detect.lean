import CodeAppraisal.Smell.LongFunction
import CodeAppraisal.Smell.ManyParameters
import CodeAppraisal.Smell.DeepNesting
import CodeAppraisal.Smell.MagicNumbers

/-!
All smells of a module, kind by kind.
-/
namespace CodeAppraisal

open Parsing

def detectors : List Detector :=
  [longFunctionDetector, manyParametersDetector, deepNestingDetector, magicNumbersDetector]

def smells (thresholds : SmellThresholds) (m : SourceModule) : List Smell :=
  detectors.flatMap fun d => d.detect thresholds m

end CodeAppraisal
