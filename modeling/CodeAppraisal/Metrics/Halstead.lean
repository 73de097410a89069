import CodeAppraisal.Quantity
import CodeAppraisal.Parsing.SourceModule
import CodeAppraisal.Text.Blank

/-!
Halstead's measures. Operators are the tokens of operations, operands the expressions they apply to.
A chain of the same boolean operator without parentheses is one operator over all its operands.
-/
namespace CodeAppraisal.Metrics

open CodeAppraisal.Parsing

structure HalsteadCounts where
  distinctOperators : Nat
  distinctOperands : Nat
  totalOperators : Nat
  totalOperands : Nat
  deriving DecidableEq, Repr

namespace HalsteadCounts

variable {α : Type} [Quantity α]

def vocabulary (c : HalsteadCounts) : α := Quantity.ofNat (c.distinctOperators + c.distinctOperands)

def length (c : HalsteadCounts) : α := Quantity.ofNat (c.totalOperators + c.totalOperands)

def volume (c : HalsteadCounts) : α :=
  if c.distinctOperators + c.distinctOperands > 0 && c.totalOperators + c.totalOperands > 0 then
    c.length * Quantity.log2 c.vocabulary
  else 0.0

def difficulty (c : HalsteadCounts) : α :=
  if c.distinctOperands > 0 then
    Quantity.ofNat c.distinctOperators / 2.0 *
      (Quantity.ofNat c.totalOperands / Quantity.ofNat c.distinctOperands)
  else 0.0

end HalsteadCounts

structure Usage where
  operators : List String
  operands : List (List Char)
  deriving DecidableEq, Repr

namespace Usage

def empty : Usage := ⟨[], []⟩

def append (a b : Usage) : Usage := ⟨a.operators ++ b.operators, a.operands ++ b.operands⟩

def counts (u : Usage) : HalsteadCounts where
  distinctOperators := u.operators.eraseDups.length
  distinctOperands := u.operands.eraseDups.length
  totalOperators := u.operators.length
  totalOperands := u.operands.length

end Usage

def isOperation (kind : String) : Bool :=
  ["binary_operator", "boolean_operator", "comparison_operator", "unary_operator", "not_operator",
    "augmented_assignment"].contains kind

def booleanOperator (t : SyntaxTree) : Option String := (t.child? "operator").map (·.kind)

def continuesChain (operator : Option String) (t : SyntaxTree) : Bool :=
  t.kind == "boolean_operator" && booleanOperator t == operator

theorem child?_mem {t c : SyntaxTree} {field : String} (h : t.child? field = some c) :
    c ∈ t.children := List.mem_of_find?_eq_some h

def chainOperands (operator : Option String) (t : SyntaxTree) : List SyntaxTree :=
  let right := (t.child? "right").toList
  match _h : t.child? "left" with
  | some left =>
    if continuesChain operator left then chainOperands operator left ++ right else left :: right
  | none => right
termination_by t
decreasing_by exact SyntaxTree.sizeOf_lt_of_mem (child?_mem ‹_›)

def operationUsage (text : SyntaxTree → List Char) (t : SyntaxTree) : Usage where
  operators := (t.children.filter fun c => !c.named && c.kind != "(" && c.kind != ")").map (·.kind)
  operands := (t.children.filter fun c => c.named && c.kind != "comment").map text

def chainUsage (text : SyntaxTree → List Char) (t : SyntaxTree) : Usage :=
  let operator := booleanOperator t
  ⟨operator.toList, (chainOperands operator t).map text⟩

def nodeUsage (text : SyntaxTree → List Char) (inChain : Bool) (t : SyntaxTree) : Usage :=
  if t.kind == "boolean_operator" then if inChain then .empty else chainUsage text t
  else if isOperation t.kind then operationUsage text t
  else .empty

mutual

def usageOf (text : SyntaxTree → List Char) (inChain : Bool) : SyntaxTree → Usage
  | .node i cs =>
    let t := SyntaxTree.node i cs
    let operator := if t.kind == "boolean_operator" then some (booleanOperator t) else none
    (nodeUsage text inChain t).append (usageBelow text operator cs)

/-- What the children of a node use; `chain` is the operator of the chain the node is in, as long as
its left operand is still to come. -/
def usageBelow (text : SyntaxTree → List Char) (chain : Option (Option String)) :
    List SyntaxTree → Usage
  | [] => .empty
  | c :: cs =>
    let isLeft := c.info.field == some "left"
    let inChain := isLeft && chain.any (continuesChain · c)
    (usageOf text inChain c).append (usageBelow text (if isLeft then none else chain) cs)

end

def operandText (m : SourceModule) (t : SyntaxTree) : List Char := Text.trim (m.text t)

def halstead (m : SourceModule) : HalsteadCounts := (usageOf (operandText m) false m.root).counts

end CodeAppraisal.Metrics
