import CodeAppraisal.Proofs.Metrics.Scopes

/-!
This module bounds complexities by the number of nodes of a tree.
-/
namespace CodeAppraisal.Metrics

open CodeAppraisal.Parsing SyntaxTree

def nodeCount (t : SyntaxTree) : Nat := t.places.card

theorem nodeCount_child {t c : SyntaxTree} (h : c ∈ t.children) : nodeCount c < nodeCount t :=
  card_places_child h

theorem child?_mem_children {t c : SyntaxTree} {field : String} (h : t.child? field = some c) :
    c ∈ t.children :=
  List.mem_of_find?_eq_some h

theorem nodeCount_undecorated (t : SyntaxTree) : nodeCount (undecorated t) ≤ nodeCount t := by
  unfold undecorated
  split
  . cases h : t.child? "definition" with
    | none => simp
    | some d => exact (nodeCount_child (child?_mem_children h)).le
  . exact le_rfl

theorem decisionPoints_le (t : SyntaxTree) :
    decisionPoints t + (t.kind == "else_clause").toNat ≤ 1 + (hasElse t).toNat := by
  have := Bool.toNat_le (t.kind == "else_clause")
  unfold decisionPoints
  split <;> simp_all
  omega

theorem scopeOf_le {cs : List SyntaxTree}
    (h : ∀ c ∈ cs, (scopeBelow c).decisions + ((scopeBelow c).definitions.map nodeCount).sum +
      (hasElse c).toNat + 1 ≤ nodeCount c) :
    (scopeOf cs).decisions + ((scopeOf cs).definitions.map nodeCount).sum +
      (cs.any (·.kind == "else_clause")).toNat ≤ (cs.map nodeCount).sum := by
  induction cs with
  | nil => simp [scopeOf, Scope.empty]
  | cons c cs ih =>
    rw [List.forall_mem_cons] at h
    have htail := ih h.2
    have helse : ((c :: cs).any (·.kind == "else_clause")).toNat ≤
        (c.kind == "else_clause").toNat + (cs.any (·.kind == "else_clause")).toNat := by
      rw [List.any_cons]
      cases c.kind == "else_clause" <;> simp
    rw [scopeOf, Scope.append]
    simp only [List.map_append, List.sum_append, List.map_cons, List.sum_cons]
    split
    . next hdef =>
      have hown : (c.kind == "else_clause") = false := by
        by_contra hkind
        simp_all [undecorated, isDefinition]
      have := nodeCount_undecorated c
      simp only [List.map_cons, List.map_nil, List.sum_cons, List.sum_nil]
      simp only [hown, Bool.toNat_false] at helse
      omega
    . have := decisionPoints_le c
      dsimp only
      omega

theorem scopeBelow_le (t : SyntaxTree) :
    (scopeBelow t).decisions + ((scopeBelow t).definitions.map nodeCount).sum +
      (hasElse t).toNat + 1 ≤ nodeCount t := by
  induction t using SyntaxTree.induction with
  | h t ih =>
    have := scopeOf_le ih
    rw [scopeBelow_eq, hasElse, nodeCount, card_places]
    unfold nodeCount at *
    omega

theorem bodyScope_lt (t : SyntaxTree) :
    1 + (bodyScope t).decisions + ((bodyScope t).definitions.map nodeCount).sum ≤ nodeCount t := by
  rw [bodyScope_eq]
  cases h : t.child? "body" with
  | none =>
    have : 1 ≤ nodeCount t := Finset.card_pos.mpr ⟨[], nil_mem_places t⟩
    simpa [Scope.empty] using this
  | some b =>
    have := nodeCount_child (child?_mem_children h)
    have := scopeBelow_le b
    rw [Option.elim_some]
    omega

theorem functionComplexity_le (t : SyntaxTree) : functionComplexity t ≤ nodeCount t := by
  have := bodyScope_lt t
  rw [functionComplexity]
  omega

theorem classTotal_le (t : SyntaxTree) : classTotal t ≤ nodeCount t := by
  have hbody := bodyScope_lt t
  have hmethods : ((methodsOf t).map (·.2)).sum ≤
      ((bodyScope t).definitions.map nodeCount).sum := by
    simp only [methodsOf, List.map_map, Function.comp_def]
    calc (((bodyScope t).definitions.filter (·.kind == "function_definition")).map
          functionComplexity).sum
      _ ≤ (((bodyScope t).definitions.filter (·.kind == "function_definition")).map
          nodeCount).sum := List.sum_le_sum fun d _ => functionComplexity_le d
      _ ≤ ((bodyScope t).definitions.map nodeCount).sum :=
        (List.filter_sublist.map nodeCount).sum_le_sum fun _ _ => Nat.zero_le _
  rw [classTotal, addUp_eq_sum]
  omega

theorem definitionTotal_le (t : SyntaxTree) : definitionTotal t ≤ nodeCount t := by
  unfold definitionTotal
  split
  . exact classTotal_le t
  . exact functionComplexity_le t

theorem total_le (nameOf : SyntaxTree → String) (root : SyntaxTree) :
    (complexityOf nameOf root).total ≤ nodeCount root := by
  have hscope := scopeBelow_le root
  have hdefinitions := List.sum_le_sum fun d (_ : d ∈ (scopeBelow root).definitions) =>
    definitionTotal_le d
  rw [total_eq_sum]
  omega

theorem sum_lt_classTotal (t : SyntaxTree) : ((methodsOf t).map (·.2)).sum < classTotal t := by
  rw [classTotal, addUp_eq_sum]
  omega

theorem length_methodsOf_lt (t : SyntaxTree) : (methodsOf t).length < classTotal t := by
  have hpos : ∀ score ∈ (methodsOf t).map (·.2), 1 ≤ score := by
    intro score hscore
    obtain ⟨m, hm, rfl⟩ := List.mem_map.mp hscore
    obtain ⟨d, _, rfl⟩ := List.mem_map.mp hm
    rw [functionComplexity]
    omega
  have hsum := List.card_nsmul_le_sum _ 1 hpos
  rw [List.length_map, smul_eq_mul, Nat.mul_one] at hsum
  exact hsum.trans_lt (sum_lt_classTotal t)

theorem classComplexity_le (t : SyntaxTree) : classComplexity t ≤ classTotal t := by
  have hlength := length_methodsOf_lt t
  unfold classComplexity
  dsimp only
  split
  . exact le_rfl
  . split
    . next hmany =>
      have : classTotal t / (methodsOf t).length ≤ classTotal t / 2 :=
        Nat.div_le_div_left hmany (by decide)
      omega
    . exact Nat.div_le_self _ _

theorem sum_definitionBlocks_le (nameOf : SyntaxTree → String) (t : SyntaxTree) :
    ((definitionBlocks nameOf t).1.map (·.complexity)).sum ≤ 2 * definitionTotal t := by
  unfold definitionBlocks definitionTotal
  split
  . have hclass := classComplexity_le t
    have hmethods := sum_lt_classTotal t
    simp only [List.map_cons, List.map_map, List.sum_cons, Function.comp_def] at hmethods ⊢
    omega
  . simp
    omega

theorem sum_le (nameOf : SyntaxTree → String) (root : SyntaxTree) :
    (complexityOf nameOf root).sum ≤ 2 * (complexityOf nameOf root).total := by
  have hblocks : (complexityOf nameOf root).sum =
      ((scopeBelow root).definitions.map fun d =>
        ((definitionBlocks nameOf d).1.map (·.complexity)).sum).sum := by
    simp [Complexity.sum, complexityOf, addUp_eq_sum, List.flatMap_def, List.sum_flatten,
      Function.comp_def]
  have hle := List.sum_le_sum fun d (_ : d ∈ (scopeBelow root).definitions) =>
    sum_definitionBlocks_le nameOf d
  rw [List.sum_map_mul_left] at hle
  rw [hblocks, total_eq_sum]
  omega

end CodeAppraisal.Metrics
