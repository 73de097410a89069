import CodeAppraisal.Smell.Basic

/-!
Functions that go on for too many lines, from the line of the name to that of the last token of
code.
-/
namespace CodeAppraisal

open Parsing

/-- The row of the last token that is not in a comment. Comments after the last statement of a block
belong to the block, but not to the code. -/
def lastCodeRow (t : SyntaxTree) : Nat :=
  match _h : (t.children.filter (·.kind != "comment")).getLast? with
  | some c => lastCodeRow c
  | none => t.stop.row
termination_by t
decreasing_by
  exact SyntaxTree.sizeOf_lt_of_mem (List.mem_filter.1 (List.mem_of_getLast? ‹_›)).1

def functionSpan (t : SyntaxTree) : Nat := lastCodeRow t - t.start.row

def longFunctions (limit : Nat) (m : SourceModule) : List Smell :=
  (plainFunctions m.root).filterMap fun t =>
    if functionSpan t > limit then some (.longFunction (m.nameOf t) (functionSpan t)) else none

def longFunctionDetector : Detector where
  name := "long-methods"
  description := "Detects overly long functions"
  detect thresholds := longFunctions thresholds.maxFunctionLines

end CodeAppraisal
