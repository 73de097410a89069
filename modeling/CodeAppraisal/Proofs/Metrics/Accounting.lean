import CodeAppraisal.Proofs.Metrics.Bounds
import CodeAppraisal.Proofs.Traversal

/-!
This module works complexities out in numbers of 32 bits, and shows what is counted in a tree and
that these numbers are enough for less than 2 ^ 31 nodes.
-/
namespace CodeAppraisal.Metrics

open CodeAppraisal.Parsing SyntaxTree

def word? (n : Nat) : Option Nat := if n < 2 ^ 32 then some n else none

def addUpFrom? (start : Nat) (counts : List Nat) : Option Nat :=
  counts.foldlM (fun sum n => word? (sum + n)) start

-- What follows is the analysis once more, with a check of each number that is added up or counted.

mutual

def scopeBelow? : SyntaxTree → Option Scope
  | .node _ cs => scopeFrom? .empty cs

def scopeFrom? (before : Scope) : List SyntaxTree → Option Scope
  | [] => some before
  | c :: cs =>
    if isDefinition (undecorated c) then
      scopeFrom? (before.append ⟨0, [undecorated c]⟩) cs
    else do
      let points ← word? (decisionPoints c)
      let below ← scopeBelow? c
      let here ← word? (points + below.decisions)
      let decisions ← word? (before.decisions + here)
      scopeFrom? ⟨decisions, before.definitions ++ below.definitions⟩ cs

end

def bodyScope? (t : SyntaxTree) : Option Scope :=
  match t.child? "body" with
  | some body => scopeBelow? body
  | none => some .empty

def functionComplexity? (t : SyntaxTree) : Option Nat := do
  let scope ← bodyScope? t
  word? (1 + scope.decisions)

def classScore? (t : SyntaxTree) : Option (List (SyntaxTree × Nat) × Nat) := do
  let scope ← bodyScope? t
  let methods ← (scope.definitions.filter (·.kind == "function_definition")).mapM fun d => do
    let score ← functionComplexity? d
    pure (d, score)
  let own ← word? (1 + scope.decisions)
  let scores ← addUpFrom? 0 (methods.map (·.2))
  let total ← word? (own + scores)
  pure (methods, total)

def classComplexity? (methods : List (SyntaxTree × Nat)) (total : Nat) : Option Nat := do
  let n ← word? methods.length
  if n = 0 then pure total else word? (total / n + (if n > 1 then 1 else 0))

def definitionBlocks? (nameOf : SyntaxTree → String) (t : SyntaxTree) :
    Option (List Block × Nat) :=
  if t.kind == "class_definition" then do
    let (methods, total) ← classScore? t
    let score ← classComplexity? methods total
    pure (⟨nameOf t, .classDef, score⟩ ::
      methods.map fun (d, score) => ⟨nameOf d, .method, score⟩, total)
  else do
    let score ← functionComplexity? t
    pure ([⟨nameOf t, .function, score⟩], score)

def complexityOf? (nameOf : SyntaxTree → String) (root : SyntaxTree) : Option Complexity := do
  let scope ← scopeBelow? root
  let found ← scope.definitions.mapM (definitionBlocks? nameOf)
  let total ← addUpFrom? scope.decisions (found.map (·.2))
  pure { blocks := found.flatMap (·.1), total }

def Complexity.sum? (c : Complexity) : Option Nat := addUpFrom? 0 (c.blocks.map (·.complexity))

theorem word?_eq {n : Nat} (h : n < 2 ^ 32) : word? n = some n :=
  if_pos h

theorem addUpFrom?_eq {start : Nat} {counts : List Nat} (h : start + counts.sum < 2 ^ 32) :
    addUpFrom? start counts = some (start + counts.sum) := by
  induction counts generalizing start with
  | nil => rfl
  | cons n counts ih =>
    rw [List.sum_cons] at h
    unfold addUpFrom? at *
    rw [List.foldlM_cons, word?_eq (by omega), Option.bind_eq_bind, Option.bind_some,
      ih (by omega), List.sum_cons, Nat.add_assoc]

mutual

theorem scopeBelow?_eq : ∀ {t : SyntaxTree}, (scopeBelow t).decisions < 2 ^ 32 →
    scopeBelow? t = some (scopeBelow t)
  | .node _ cs, h => by
    rw [scopeBelow] at h
    rw [scopeBelow?, scopeBelow, scopeFrom?_eq (by simpa [Scope.empty] using h)]
    simp [Scope.append, Scope.empty]

theorem scopeFrom?_eq : ∀ {before : Scope} {cs : List SyntaxTree},
    before.decisions + (scopeOf cs).decisions < 2 ^ 32 →
    scopeFrom? before cs = some (before.append (scopeOf cs))
  | before, [], _ => by simp [scopeFrom?, scopeOf, Scope.append, Scope.empty]
  | before, c :: cs, h => by
    rw [scopeOf] at h
    rw [scopeFrom?, scopeOf]
    split
    . next hdef =>
      rw [if_pos hdef] at h
      rw [scopeFrom?_eq (by simpa [Scope.append] using h)]
      simp [Scope.append]
    . next hdef =>
      rw [if_neg hdef] at h
      simp only [Scope.append] at h
      rw [word?_eq (by omega), scopeBelow?_eq (by omega)]
      simp only [Option.bind_eq_bind, Option.bind_some]
      rw [word?_eq (by omega), Option.bind_some, word?_eq (by omega), Option.bind_some,
        scopeFrom?_eq (by dsimp only; omega)]
      simp [Scope.append, Nat.add_assoc]

end

theorem bodyScope?_eq {t : SyntaxTree} (h : (bodyScope t).decisions < 2 ^ 32) :
    bodyScope? t = some (bodyScope t) := by
  unfold bodyScope at *
  unfold bodyScope?
  cases hbody : t.child? "body" with
  | none => rfl
  | some body =>
    rw [hbody] at h
    exact scopeBelow?_eq h

theorem functionComplexity?_eq {t : SyntaxTree} (h : functionComplexity t < 2 ^ 32) :
    functionComplexity? t = some (functionComplexity t) := by
  rw [functionComplexity] at h
  rw [functionComplexity?, bodyScope?_eq (by omega), Option.bind_eq_bind, Option.bind_some,
    word?_eq h, functionComplexity]

theorem classScore?_eq {t : SyntaxTree} (h : classTotal t < 2 ^ 32) :
    classScore? t = some (methodsOf t, classTotal t) := by
  rw [classTotal, addUp_eq_sum] at h
  have hmethods : (((bodyScope t).definitions.filter (·.kind == "function_definition")).mapM
      fun d => do
        let score ← functionComplexity? d
        pure (d, score)) = some (methodsOf t) := by
    apply mapM_eq_some
    intro d hd
    have hscore : functionComplexity d ≤ ((methodsOf t).map (·.2)).sum :=
      List.le_sum_of_mem (List.mem_map.mpr ⟨_, List.mem_map_of_mem hd, rfl⟩)
    rw [functionComplexity?_eq (by omega)]
    rfl
  unfold classScore?
  simp only [Option.bind_eq_bind]
  rw [bodyScope?_eq (by omega), Option.bind_some]
  simp only [Option.bind_eq_bind] at hmethods
  rw [hmethods, Option.bind_some, word?_eq (by omega), Option.bind_some,
    addUpFrom?_eq (by omega), Option.bind_some, Nat.zero_add, word?_eq h]
  rfl

theorem classComplexity?_eq {t : SyntaxTree} (h : classTotal t < 2 ^ 32) :
    classComplexity? (methodsOf t) (classTotal t) = some (classComplexity t) := by
  have hlength := length_methodsOf_lt t
  have hscore := classComplexity_le t
  unfold classComplexity at *
  rw [classComplexity?, word?_eq (by omega), Option.bind_eq_bind, Option.bind_some]
  dsimp only at hscore ⊢
  split
  . rfl
  . next hsome =>
    rw [if_neg hsome] at hscore
    exact word?_eq (by omega)

theorem definitionBlocks?_eq {nameOf : SyntaxTree → String} {t : SyntaxTree}
    (h : definitionTotal t < 2 ^ 32) :
    definitionBlocks? nameOf t = some (definitionBlocks nameOf t) := by
  unfold definitionTotal at h
  unfold definitionBlocks? definitionBlocks
  split
  . next hclass =>
    rw [if_pos hclass] at h
    rw [classScore?_eq h, Option.bind_eq_bind, Option.bind_some]
    dsimp only
    rw [classComplexity?_eq h]
    rfl
  . next hclass =>
    rw [if_neg hclass] at h
    rw [functionComplexity?_eq h]
    rfl

theorem complexityOf?_eq {nameOf : SyntaxTree → String} {root : SyntaxTree}
    (h : (complexityOf nameOf root).total < 2 ^ 32) :
    complexityOf? nameOf root = some (complexityOf nameOf root) := by
  rw [total_eq_sum] at h
  have hfound : (scopeBelow root).definitions.mapM (definitionBlocks? nameOf) =
      some ((scopeBelow root).definitions.map (definitionBlocks nameOf)) := by
    apply mapM_eq_some
    intro d hd
    have := List.le_sum_of_mem (List.mem_map_of_mem (f := definitionTotal) hd)
    exact definitionBlocks?_eq (by omega)
  have htotals : ((scopeBelow root).definitions.map (definitionBlocks nameOf)).map (·.2) =
      (scopeBelow root).definitions.map definitionTotal := by
    rw [List.map_map]
    exact List.map_congr_left fun d _ => snd_definitionBlocks nameOf d
  unfold complexityOf? complexityOf
  rw [scopeBelow?_eq (by omega), Option.bind_eq_bind, Option.bind_some, hfound,
    Option.bind_eq_bind, Option.bind_some, htotals, addUpFrom?_eq h]
  dsimp only
  rw [htotals, addUp_eq_sum]
  rfl

theorem sum?_eq {c : Complexity} (h : c.sum < 2 ^ 32) : c.sum? = some c.sum := by
  rw [Complexity.sum, addUp_eq_sum] at *
  rw [Complexity.sum?, addUpFrom?_eq (by omega), Nat.zero_add]

structure Complexity.Accounts (c : Complexity) (nameOf : SyntaxTree → String)
    (root : SyntaxTree) : Prop where
  total_eq : c.total = (scopeDefinitions root).card + (moduleMethods root).card +
    ∑ p ∈ counted root, (root.at? p).elim 0 decisionPoints
  total_le : c.total ≤ nodeCount root
  sum_le : c.sum ≤ 2 * c.total
  fits : nodeCount root < 2 ^ 31 →
    complexityOf? nameOf root = some c ∧ c.sum? = some c.sum

theorem complexityOf_accounts (nameOf : SyntaxTree → String) (root : SyntaxTree) :
    (complexityOf nameOf root).Accounts nameOf root := by
  have htotal := total_le nameOf root
  have hsum := sum_le nameOf root
  constructor
  case total_eq => exact total_eq nameOf root
  case total_le => exact htotal
  case sum_le => exact hsum
  case fits =>
    intro hnodes
    exact ⟨complexityOf?_eq (by omega), sum?_eq (by omega)⟩

def loopClass : SyntaxTree :=
  node "module" none [node "class_definition" none [node "block" "body"
    [node "function_definition" none [node "block" "body"
      [node "for_statement" none [node "else_clause" none []]]]]]]
where
  node (kind : String) (field : Option String) (children : List SyntaxTree) : SyntaxTree :=
    .node { (default : NodeInfo) with kind, field } children

theorem complexityOf_accounts_loopClass : nodeCount loopClass = 7 ∧
    complexityOf? kind loopClass =
      some ⟨[⟨"class_definition", .classDef, 4⟩, ⟨"function_definition", .method, 3⟩], 4⟩ := by
  have hnodes : nodeCount loopClass = 7 := by decide +kernel
  refine ⟨hnodes, ?_⟩
  rw [((complexityOf_accounts kind loopClass).fits (by omega)).1]
  decide +kernel

end CodeAppraisal.Metrics
