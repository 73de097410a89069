import CodeAppraisal.Parsing.SourceModule

/-!
How many definitions, imports, loops and conditions a module has. What is asynchronous counts
neither as a function nor as a loop.
-/
namespace CodeAppraisal.Metrics

open CodeAppraisal.Parsing

structure StructureCounts where
  functions : Nat
  classes : Nat
  imports : Nat
  loops : Nat
  conditionals : Nat
  deriving DecidableEq, Repr

def isFunction (t : SyntaxTree) : Bool := t.kind == "function_definition" && !t.isAsync

def isClass (t : SyntaxTree) : Bool := t.kind == "class_definition"

def isImport (t : SyntaxTree) : Bool :=
  ["import_statement", "import_from_statement", "future_import_statement"].contains t.kind

def isLoop (t : SyntaxTree) : Bool :=
  (t.kind == "for_statement" && !t.isAsync) || t.kind == "while_statement"

def isConditional (t : SyntaxTree) : Bool := t.kind == "if_statement" || t.kind == "elif_clause"

def countStructure (nodes : List SyntaxTree) : StructureCounts where
  functions := nodes.countP isFunction
  classes := nodes.countP isClass
  imports := nodes.countP isImport
  loops := nodes.countP isLoop
  conditionals := nodes.countP isConditional

def structureCounts (m : SourceModule) : StructureCounts := countStructure m.root.walk

end CodeAppraisal.Metrics
