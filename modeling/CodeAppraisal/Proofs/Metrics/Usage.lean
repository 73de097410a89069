import CodeAppraisal.Metrics.Halstead
import CodeAppraisal.Proofs.Metrics.Scopes

/-!
This module says what each node of a syntax tree adds to Halstead's counts.
-/
namespace CodeAppraisal.Metrics

open CodeAppraisal.Parsing SyntaxTree
open bodyPlaces (part?)

section Chain

variable {operator : Option String} {t left : SyntaxTree}

theorem chainOperands_of_left (h : t.child? "left" = some left) :
    chainOperands operator t =
      (if continuesChain operator left then chainOperands operator left else [left]) ++
        (t.child? "right").toList := by
  rw [chainOperands]
  split
  . next l hl =>
    obtain rfl := Option.some.inj (hl.symm.trans h)
    split <;> rfl
  . next hnone => exact absurd (hnone.symm.trans h) (by simp)

theorem chainOperands_of_no_left (h : t.child? "left" = none) :
    chainOperands operator t = (t.child? "right").toList := by
  rw [chainOperands]
  split
  . next l hl => exact absurd (h.symm.trans hl) (by simp)
  . rfl

end Chain

namespace Usage

def bag (u : Usage) : Multiset String × Multiset (List Char) := (u.operators, u.operands)

@[simp]
theorem bag_empty : empty.bag = 0 := rfl

@[simp]
theorem empty_append (u : Usage) : empty.append u = u := rfl

@[simp]
theorem bag_append (u v : Usage) : (u.append v).bag = u.bag + v.bag := rfl

end Usage

section Nodes

variable {text : SyntaxTree → List Char} {t : SyntaxTree}

theorem ne_boolean_operator (h : isOperation t.kind = false) : t.kind ≠ "boolean_operator" := by
  intro hkind
  rw [hkind] at h
  exact absurd h (by decide)

theorem nodeUsage_eq_empty (h : isOperation t.kind = false) (inChain : Bool) :
    nodeUsage text inChain t = .empty := by
  simp [nodeUsage, h, ne_boolean_operator h]

theorem usageOf_eq (inChain : Bool) (t : SyntaxTree) : usageOf text inChain t =
    (nodeUsage text inChain t).append (usageBelow text
      (if t.kind == "boolean_operator" then some (booleanOperator t) else none) t.children) := by
  cases t
  rw [usageOf, children]

end Nodes

def isLink (t : SyntaxTree) (i : Nat) (c : SyntaxTree) : Bool :=
  t.kind == "boolean_operator" && part? t "left" == some i && continuesChain (booleanOperator t) c

def inChainAt (inChain : Bool) : SyntaxTree → Place → Bool
  | _, [] => inChain
  | t, i :: p => (t.children[i]?).any fun c => inChainAt (isLink t i c) c p

section Places

variable {text : SyntaxTree → List Char}

theorem bag_usageBelow (chain : Option (Option String)) (cs : List SyntaxTree) :
    (usageBelow text chain cs).bag = ∑ i : Fin cs.length,
      (usageOf text (cs.findIdx? (·.info.field == some "left") == some i.val &&
        chain.any (continuesChain · cs[i])) cs[i]).bag := by
  induction cs generalizing chain with
  | nil => rfl
  | cons c cs ih =>
    rw [usageBelow, Usage.bag_append, ih]
    refine Eq.trans ?_ (Fin.sum_univ_succ (n := cs.length) _).symm
    cases hleft : c.info.field == some "left" with
    | true =>
      simp [List.findIdx?_cons, hleft]
    | false =>
      cases hrest : cs.findIdx? (·.info.field == some "left") <;>
        simp [List.findIdx?_cons, hleft, hrest]

theorem bag_usageOf (inChain : Bool) (t : SyntaxTree) : (usageOf text inChain t).bag =
    ∑ p ∈ t.places, (t.at? p).elim 0 fun u => (nodeUsage text (inChainAt inChain t p) u).bag := by
  induction t using SyntaxTree.induction generalizing inChain with
  | h t ih =>
    have hchain : ∀ i : Fin t.children.length, isLink t i t.children[i] =
        (t.children.findIdx? (·.info.field == some "left") == some i.val &&
          (if t.kind == "boolean_operator" then some (booleanOperator t) else none).any
            (continuesChain · t.children[i])) := by
      intro i
      unfold isLink part?
      cases t.kind == "boolean_operator" <;> simp
    rw [usageOf_eq, Usage.bag_append, bag_usageBelow, sum_places]
    congr 1
    apply Finset.sum_congr rfl
    intro i _
    rw [← hchain, ih t.children[i] (by simp)]
    apply Finset.sum_congr rfl
    intro p _
    simp [inChainAt]

end Places

end CodeAppraisal.Metrics
