import CodeAppraisal.Smell.Basic

/-!
Statements nested too deep. An `elif` is an `if` within the `else` of the branch before it, so the
k-th one lies k levels below its `if`, and a last `else` with the last of them. Asynchronous loops
and `with` statements do not nest.
-/
namespace CodeAppraisal

open Parsing

def nests (t : SyntaxTree) : Bool :=
  match t.kind with
  | "if_statement" | "while_statement" => true
  | "for_statement" | "with_statement" => !t.isAsync
  | _ => false

mutual

def nestingFrom (depth : Nat) : SyntaxTree → Nat
  | .node i cs =>
    let depth := if nests (.node i cs) then depth + 1 else depth
    nestingBelow (i.kind == "if_statement") depth 0 cs

/-- The deepest level in the children of a node at level `depth`, after `elifs` branches. -/
def nestingBelow (inIf : Bool) (depth elifs : Nat) : List SyntaxTree → Nat
  | [] => depth
  | c :: cs =>
    let elifs := if c.kind == "elif_clause" then elifs + 1 else elifs
    let here :=
      if c.kind == "elif_clause" || (c.kind == "else_clause" && inIf) then depth + elifs else depth
    max (nestingFrom here c) (nestingBelow inIf depth elifs cs)

end

def nestingDepth (root : SyntaxTree) : Nat := nestingFrom 0 root

def deepNesting (limit : Nat) (m : SourceModule) : List Smell :=
  let depth := nestingDepth m.root
  if depth > limit then [.deepNesting depth] else []

def deepNestingDetector : Detector where
  name := "deep-nesting"
  description := "Detects deeply nested control flow"
  detect thresholds := deepNesting thresholds.maxNestingDepth

end CodeAppraisal
