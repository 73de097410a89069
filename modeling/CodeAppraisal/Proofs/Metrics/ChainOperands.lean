import CodeAppraisal.Proofs.Metrics.BooleanChains
import CodeAppraisal.Proofs.Metrics.Composition

/-!
This module shows that a chain of boolean operations counts once: it is one operator over all its
operands.
-/
namespace CodeAppraisal.Metrics

open CodeAppraisal.Parsing SyntaxTree

def chainParts (t : SyntaxTree) (C : List Place) : List SyntaxTree :=
  ((C.getLast?.bind t.at?).bind (·.child? "left")).toList ++
    C.reverse.flatMap fun p => ((t.at? p).bind (·.child? "right")).toList

section ChainParts

variable {t u : SyntaxTree} {p : Place} {C : List Place}

theorem chainParts_map (h : t.at? p = some u) (C : List Place) :
    chainParts t (C.map (p ++ ·)) = chainParts u C := by
  have hat : ∀ q, t.at? (p ++ q) = u.at? q := by
    intro q
    rw [at?_append, h, Option.bind_some]
  simp [chainParts, List.getLast?_map, Option.bind_map, ← List.map_reverse, List.flatMap_map, hat]

theorem chainParts_cons (hC : C ≠ []) : chainParts t (p :: C) =
    chainParts t C ++ ((t.at? p).bind (·.child? "right")).toList := by
  simp [chainParts, List.getLast?_cons_of_ne_nil hC]

theorem chainOperands_eq_chainParts (h : t.kind = "boolean_operator") :
    chainOperands (booleanOperator t) t = chainParts t (chainBelow t) := by
  induction t using SyntaxTree.induction with
  | h t ih =>
    rw [chainBelow_eq]
    cases hnext : nextLink? t with
    | some link =>
      obtain ⟨i, c⟩ := link
      obtain ⟨hc, hlink⟩ := nextLink?_eq_some_iff.mp hnext
      obtain ⟨_, hi, hkind, hoperator⟩ := isLink_iff.mp hlink
      have hchild : t.at? [i] = some c := by simp [hc]
      have hleft : t.child? "left" = some c := by
        rw [child?_eq, hi, Option.bind_some, hc]
      have hcontinues : continuesChain (booleanOperator t) c = true := by
        simp [continuesChain, hkind, hoperator]
      have hne : (chainBelow c).map (i :: ·) ≠ [] := by simp [chainBelow_ne_nil]
      rw [chainOperands_of_left hleft, if_pos hcontinues, ← hoperator,
        ih c (List.mem_of_getElem? hc) hkind, Option.elim_some, chainParts_cons hne, at?_nil,
        Option.bind_some]
      congr 1
      exact (chainParts_map hchild _).symm
    | none =>
      have hparts : chainParts t [[]] =
          (t.child? "left").toList ++ (t.child? "right").toList := by
        simp [chainParts]
      rw [Option.elim_none, hparts]
      cases hleft : t.child? "left" with
      | none => rw [chainOperands_of_no_left hleft, Option.toList_none, List.nil_append]
      | some c =>
        have hstop : ¬continuesChain (booleanOperator t) c = true := by
          intro hcontinues
          rw [child?_eq] at hleft
          obtain ⟨i, hi, hc⟩ := Option.bind_eq_some_iff.mp hleft
          have hlink : isLink t i c = true := by
            simp [isLink, h, hi, hcontinues]
          rw [nextLink?_eq_some_iff.mpr ⟨hc, hlink⟩] at hnext
          cases hnext
        rw [chainOperands_of_left hleft, if_neg hstop, Option.toList_some]

end ChainParts

def usageOfChain (text : SyntaxTree → List Char) (t : SyntaxTree) (C : List Place) : Usage where
  operators := ((C.head?.bind t.at?).bind booleanOperator).toList
  operands := (chainParts t C).map text

def otherOperations (t : SyntaxTree) : Finset Place :=
  {p ∈ t.places | (t.at? p).any fun u => isOperation u.kind && u.kind != "boolean_operator"}

section Sums

variable {text : SyntaxTree → List Char} {t u : SyntaxTree} {p : Place}

theorem usageOfChain_chainFrom (hu : t.at? p = some u) (h : u.kind = "boolean_operator") :
    usageOfChain text t (chainFrom t p) = chainUsage text u := by
  rw [usageOfChain, head?_chainFrom hu, Option.bind_some, hu, Option.bind_some, chainFrom_eq hu,
    chainParts_map hu, ← chainOperands_eq_chainParts h]
  rfl

theorem bag_usageOf_eq_chains (text : SyntaxTree → List Char) (t : SyntaxTree) :
    (usageOf text false t).bag = ∑ C ∈ chains t, (usageOfChain text t C).bag +
      ∑ p ∈ otherOperations t, (t.at? p).elim 0 fun u => (operationUsage text u).bag := by
  rw [bag_usageOf, sum_chains, chainHeads, booleans, otherOperations, Finset.filter_filter,
    Finset.sum_filter, Finset.sum_filter, ← Finset.sum_add_distrib]
  apply Finset.sum_congr rfl
  intro p hp
  obtain ⟨u, hu⟩ := exists_node hp
  simp only [hu, Option.elim_some, Option.any_some, nodeUsage]
  cases hkind : u.kind == "boolean_operator" with
  | true =>
    rw [beq_iff_eq] at hkind
    rw [usageOfChain_chainFrom hu hkind]
    cases inChainAt false t p <;> simp [bne, hkind]
  | false => cases isOperation u.kind <;> simp [bne, hkind]

end Sums

/-- Whether a boolean operation has both operands and an operator, as the grammar gives them. -/
def HasParts (t : SyntaxTree) : Prop :=
  ∀ field ∈ ["left", "operator", "right"], (t.child? field).isSome

instance (t : SyntaxTree) : Decidable (HasParts t) :=
  inferInstanceAs (Decidable (∀ field ∈ ["left", "operator", "right"], (t.child? field).isSome))

section Lengths

variable {t : SyntaxTree} {C : List Place}

theorem length_usageOfChain (text : SyntaxTree → List Char) (hC : MaximalChain t C)
    (hparts : ∀ p ∈ C, ∀ u, t.at? p = some u → HasParts u) :
    (usageOfChain text t C).operators.length = 1 ∧
      (usageOfChain text t C).operands.length = C.length + 1 := by
  have hpart : ∀ p ∈ C, ∀ field ∈ ["left", "operator", "right"],
      ((t.at? p).bind (·.child? field)).isSome := by
    intro p hp field hfield
    obtain ⟨u, hu, _⟩ := mem_booleans.mp (hC.subset p hp)
    rw [hu]
    exact hparts p hp u hu field hfield
  constructor
  . obtain ⟨c, hc⟩ := Option.isSome_iff_exists.mp
      (hpart _ (List.head_mem hC.ne_nil) "operator" (by simp))
    obtain ⟨u, hu, hc⟩ := Option.bind_eq_some_iff.mp hc
    rw [usageOfChain, List.head?_eq_some_head hC.ne_nil, Option.bind_some, hu, Option.bind_some,
      booleanOperator, hc]
    rfl
  . have hright : ∀ p ∈ C.reverse, ((t.at? p).bind (·.child? "right")).toList.length = 1 := by
      intro p hp
      obtain ⟨c, hc⟩ := Option.isSome_iff_exists.mp
        (hpart p (List.mem_reverse.mp hp) "right" (by simp))
      rw [hc]
      rfl
    obtain ⟨c, hc⟩ := Option.isSome_iff_exists.mp
      (hpart _ (List.getLast_mem hC.ne_nil) "left" (by simp))
    rw [usageOfChain, chainParts, List.getLast?_eq_some_getLast hC.ne_nil, Option.bind_some, hc,
      List.length_map, List.length_append, List.length_flatMap, List.map_congr_left hright]
    simp [Nat.add_comm]

end Lengths

structure CountsChains (m : SourceModule) : Prop where
  mem_chains : ∀ C, C ∈ chains m.root ↔ MaximalChain m.root C
  partition : ∀ p ∈ booleans m.root, ∃! C, C ∈ chains m.root ∧ p ∈ C
  usage_eq : (usage m).bag =
    ∑ C ∈ chains m.root, (usageOfChain (operandText m) m.root C).bag +
      ∑ p ∈ otherOperations m.root,
        (m.root.at? p).elim 0 fun u => (operationUsage (operandText m) u).bag
  length_eq : ∀ C ∈ chains m.root,
    (∀ p ∈ C, ∀ u, m.root.at? p = some u → HasParts u) →
      (usageOfChain (operandText m) m.root C).operators.length = 1 ∧
        (usageOfChain (operandText m) m.root C).operands.length = C.length + 1
  total_eq : (∀ u ∈ m.root.walk, u.kind = "boolean_operator" → HasParts u) →
    (halstead m).totalOperators = (chains m.root).card +
        sumAt (fun u => (operationUsage (operandText m) u).operators.length) m.root
          (otherOperations m.root) ∧
      (halstead m).totalOperands = (booleans m.root).card + (chains m.root).card +
        sumAt (fun u => (operationUsage (operandText m) u).operands.length) m.root
          (otherOperations m.root)

theorem length_part {β : Type} (part : Usage → List β)
    (proj : Multiset String × Multiset (List Char) →+ Multiset β)
    (hproj : ∀ u, proj u.bag = part u) (m : SourceModule) :
    (part (usage m)).length =
      ∑ C ∈ chains m.root, (part (usageOfChain (operandText m) m.root C)).length +
        sumAt (fun u => (part (operationUsage (operandText m) u)).length) m.root
          (otherOperations m.root) := by
  have hcard := congrArg (fun b => Multiset.card (proj b))
    (bag_usageOf_eq_chains (operandText m) m.root)
  simp only [map_add, map_sum, Multiset.card_add, Multiset.card_sum, hproj, Multiset.coe_card]
    at hcard
  refine hcard.trans ?_
  congr 1
  apply Finset.sum_congr rfl
  intro p _
  cases m.root.at? p <;> simp [hproj]

theorem halstead_countsChains (m : SourceModule) : CountsChains m := by
  constructor
  case mem_chains => exact fun C => mem_chains
  case partition =>
    intro p hp
    obtain ⟨C, hC, hmem⟩ := exists_maximalChain hp
    refine ⟨C, ⟨mem_chains.mpr hC, hmem⟩, ?_⟩
    rintro D ⟨hD, hmem'⟩
    exact (mem_chains.mp hD).eq_of_mem hC hmem' hmem
  case usage_eq => exact bag_usageOf_eq_chains (operandText m) m.root
  case length_eq => exact fun C hC => length_usageOfChain (operandText m) (mem_chains.mp hC)
  case total_eq =>
    intro hparts
    have hlength : ∀ C ∈ chains m.root, _ := fun C hC =>
      length_usageOfChain (operandText m) (mem_chains.mp hC) fun p hp u hu => by
        obtain ⟨v, hv, hkind⟩ := mem_booleans.mp ((mem_chains.mp hC).subset p hp)
        obtain rfl := Option.some.inj (hu.symm.trans hv)
        exact hparts u (mem_walk_of_at? hu) hkind
    constructor
    . rw [Finset.card_eq_sum_ones, ← Finset.sum_congr rfl fun C hC => (hlength C hC).1]
      exact length_part Usage.operators (AddMonoidHom.fst _ _) (fun _ => rfl) m
    . rw [← sum_length_chains, Finset.card_eq_sum_ones, ← Finset.sum_add_distrib,
        ← Finset.sum_congr rfl fun C hC => (hlength C hC).2]
      exact length_part Usage.operands (AddMonoidHom.snd _ _) (fun _ => rfl) m

/-- The tree of `a and b and c or (d and e)`, without texts. -/
def mixedChains : SyntaxTree :=
  boolean "or" none (boolean "and" (some "left") (boolean "and" (some "left") (name "left")
    (name "right")) (name "right")) (node "parenthesized_expression" (some "right")
      [boolean "and" none (name "left") (name "right")])
where
  node (kind : String) (field : Option String) (children : List SyntaxTree) : SyntaxTree :=
    .node { (default : NodeInfo) with kind, field } children
  name (field : String) : SyntaxTree := node "identifier" (some field) []
  boolean (operator : String) (field : Option String) (left right : SyntaxTree) : SyntaxTree :=
    node "boolean_operator" field [left, node operator (some "operator") [], right]

theorem halstead_countsChains_mixed :
    (∀ u ∈ mixedChains.walk, u.kind = "boolean_operator" → HasParts u) ∧
      (chains mixedChains).card = 3 ∧
      (halstead ⟨Source.ofString "", mixedChains⟩).totalOperands = 7 := by
  have hparts : ∀ u ∈ mixedChains.walk, u.kind = "boolean_operator" → HasParts u := by
    simp only [(walk_perm mixedChains).mem_iff]
    decide +kernel
  obtain ⟨hoperators, hoperands⟩ :=
    (halstead_countsChains ⟨Source.ofString "", mixedChains⟩).total_eq hparts
  dsimp only at hoperators hoperands
  have hother : otherOperations mixedChains = ∅ := by decide +kernel
  have hbooleans : (booleans mixedChains).card = 4 := by decide +kernel
  have htotal : (halstead ⟨Source.ofString "", mixedChains⟩).totalOperators = 3 := by decide +kernel
  rw [hother, sumAt, Finset.sum_empty] at hoperators hoperands
  refine ⟨hparts, by omega, by omega⟩

end CodeAppraisal.Metrics
