import CodeAppraisal.Parsing.SourceModule

/-!
Signs that code may be hard to live with, and how much of each is let pass.
-/
namespace CodeAppraisal

open Parsing

inductive Smell where
  | longFunction (name : String) (lines : Nat)
  | manyParameters (name : String) (count : Nat)
  | deepNesting (depth : Nat)
  | magicNumbers
  deriving DecidableEq, Repr

def Smell.message : Smell → String
  | .longFunction name lines => s!"Long function '{name}' ({lines} lines)"
  | .manyParameters name count => s!"Function '{name}' has too many parameters ({count})"
  | .deepNesting depth => s!"Deeply nested code (depth: {depth})"
  | .magicNumbers => "Magic numbers detected - consider using constants"

structure SmellThresholds where
  maxFunctionLines : Nat := 50
  maxParameters : Nat := 5
  maxNestingDepth : Nat := 4
  deriving DecidableEq, Repr, Inhabited

structure Detector where
  name : String
  description : String
  detect : SmellThresholds → SourceModule → List Smell

def plainFunctions (root : SyntaxTree) : List SyntaxTree :=
  root.walk.filter fun t => t.kind == "function_definition" && !t.isAsync

end CodeAppraisal
