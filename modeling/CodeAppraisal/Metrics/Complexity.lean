import CodeAppraisal.Quantity
import CodeAppraisal.Parsing.SourceModule

/-!
Cyclomatic complexity: one for each function or class, and one for each point where the flow of
control divides. Definitions within functions and classes within classes are left out.
-/
namespace CodeAppraisal.Metrics

open CodeAppraisal.Parsing

inductive BlockKind where
  | function
  | classDef
  | method
  deriving DecidableEq, Repr

structure Block where
  name : String
  kind : BlockKind
  complexity : Nat
  deriving DecidableEq, Repr

structure Complexity where
  blocks : List Block
  total : Nat
  deriving DecidableEq, Repr

namespace Complexity

variable {α : Type} [Quantity α]

def sum (c : Complexity) : Nat := addUp (c.blocks.map (·.complexity))

def average (c : Complexity) : α :=
  if c.blocks.isEmpty then 0.0
  else Quantity.ofNat c.sum / Quantity.ofNat c.blocks.length

def max (c : Complexity) : Nat := (c.blocks.map (·.complexity)).foldl Nat.max 0

end Complexity

def hasElse (t : SyntaxTree) : Bool := t.children.any (·.kind == "else_clause")

def decisionPoints (t : SyntaxTree) : Nat :=
  match t.kind with
  | "if_statement" | "elif_clause" | "conditional_expression" | "except_clause"
  | "except_group_clause" | "boolean_operator" | "for_in_clause" | "if_clause" | "case_clause" => 1
  | "for_statement" | "while_statement" => 1 + (hasElse t).toNat
  | "try_statement" => (hasElse t).toNat
  | _ => 0

def undecorated (t : SyntaxTree) : SyntaxTree :=
  if t.kind == "decorated_definition" then (t.child? "definition").getD t else t

def isDefinition (t : SyntaxTree) : Bool :=
  t.kind == "function_definition" || t.kind == "class_definition"

structure Scope where
  decisions : Nat
  definitions : List SyntaxTree

namespace Scope

def empty : Scope := ⟨0, []⟩

def append (a b : Scope) : Scope := ⟨a.decisions + b.decisions, a.definitions ++ b.definitions⟩

end Scope

mutual

def scopeBelow : SyntaxTree → Scope
  | .node _ cs => scopeOf cs

def scopeOf : List SyntaxTree → Scope
  | [] => .empty
  | c :: cs =>
    let here : Scope :=
      if isDefinition (undecorated c) then ⟨0, [undecorated c]⟩
      else
        let below := scopeBelow c
        ⟨decisionPoints c + below.decisions, below.definitions⟩
    here.append (scopeOf cs)

end

def bodyScope (t : SyntaxTree) : Scope :=
  match t.child? "body" with
  | some body => scopeBelow body
  | none => .empty

def functionComplexity (t : SyntaxTree) : Nat := 1 + (bodyScope t).decisions

def methodsOf (t : SyntaxTree) : List (SyntaxTree × Nat) :=
  ((bodyScope t).definitions.filter (·.kind == "function_definition")).map fun d =>
    (d, functionComplexity d)

def classTotal (t : SyntaxTree) : Nat :=
  1 + (bodyScope t).decisions + addUp ((methodsOf t).map (·.2))

def classComplexity (t : SyntaxTree) : Nat :=
  let n := (methodsOf t).length
  if n = 0 then classTotal t else classTotal t / n + (if n > 1 then 1 else 0)

def definitionBlocks (nameOf : SyntaxTree → String) (t : SyntaxTree) : List Block × Nat :=
  if t.kind == "class_definition" then
    (⟨nameOf t, .classDef, classComplexity t⟩ ::
      (methodsOf t).map fun (d, score) => ⟨nameOf d, .method, score⟩, classTotal t)
  else
    let score := functionComplexity t
    ([⟨nameOf t, .function, score⟩], score)

def complexityOf (nameOf : SyntaxTree → String) (root : SyntaxTree) : Complexity :=
  let scope := scopeBelow root
  let found := scope.definitions.map (definitionBlocks nameOf)
  { blocks := found.flatMap (·.1), total := scope.decisions + addUp (found.map (·.2)) }

def complexity (m : SourceModule) : Complexity := complexityOf m.nameOf m.root

end CodeAppraisal.Metrics
