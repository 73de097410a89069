import CodeAppraisal.Metrics.Halstead
import CodeAppraisal.Metrics.Structure
import CodeAppraisal.Proofs.Metrics.Lines
import CodeAppraisal.Proofs.Metrics.Scopes
import CodeAppraisal.Proofs.Parsing.Walk
import CodeAppraisal.Smell.DeepNesting

/-!
This module shows that the measures of a module are put together from those of its parts: what is
counted in a statement does not depend on the statements around it.
-/
namespace CodeAppraisal.Metrics

open CodeAppraisal.Parsing SyntaxTree

def moduleOf (source : Source) (info : NodeInfo) (statements : List SyntaxTree) : SourceModule :=
  ⟨source, .node { info with kind := "module" } statements⟩

def usage (m : SourceModule) : Usage := usageOf (operandText m) false m.root

theorem halstead_eq (m : SourceModule) : halstead m = (usage m).counts :=
  rfl

def operatorSet (m : SourceModule) : Finset String := (usage m).operators.toFinset

def operandSet (m : SourceModule) : Finset (List Char) := (usage m).operands.toFinset

instance : Add StructureCounts where
  add a b :=
    { functions := a.functions + b.functions
      classes := a.classes + b.classes
      imports := a.imports + b.imports
      loops := a.loops + b.loops
      conditionals := a.conditionals + b.conditionals }

section Walk

variable {p : SyntaxTree → Bool}

theorem countP_walk_append {t t₁ t₂ : SyntaxTree} (h : t.children = t₁.children ++ t₂.children)
    (ht : p t = false) (ht₁ : p t₁ = false) (ht₂ : p t₂ = false) :
    t.walk.countP p = t₁.walk.countP p + t₂.walk.countP p := by
  rw [countP_walk p t, countP_walk p t₁, countP_walk p t₂, h, List.map_append, List.sum_append]
  simp only [ht, ht₁, ht₂, Bool.toNat_false, Nat.zero_add]

theorem countStructure_walk_append {t t₁ t₂ : SyntaxTree}
    (h : t.children = t₁.children ++ t₂.children) (ht : t.kind = "module")
    (ht₁ : t₁.kind = "module") (ht₂ : t₂.kind = "module") :
    countStructure t.walk = countStructure t₁.walk + countStructure t₂.walk := by
  have hcount : ∀ p : SyntaxTree → Bool, (∀ u, u.kind = "module" → p u = false) →
      t.walk.countP p = t₁.walk.countP p + t₂.walk.countP p := by
    intro p hp
    exact countP_walk_append h (hp t ht) (hp t₁ ht₁) (hp t₂ ht₂)
  unfold countStructure
  rw [hcount isFunction (by simp +contextual [isFunction]),
    hcount isClass (by simp +contextual [isClass]),
    hcount isImport (by simp +contextual [isImport]),
    hcount isLoop (by simp +contextual [isLoop]),
    hcount isConditional (by simp +contextual [isConditional])]
  rfl

end Walk

theorem scopeOf_append (cs ds : List SyntaxTree) :
    scopeOf (cs ++ ds) = (scopeOf cs).append (scopeOf ds) := by
  induction cs with
  | nil => simp [scopeOf, Scope.append, Scope.empty]
  | cons c cs ih =>
    rw [List.cons_append, scopeOf, scopeOf, ih]
    simp only [Scope.append, Nat.add_assoc, List.append_assoc]

section Usage

variable {text : SyntaxTree → List Char}

theorem usageBelow_append (cs ds : List SyntaxTree) :
    usageBelow text none (cs ++ ds) =
      (usageBelow text none cs).append (usageBelow text none ds) := by
  induction cs with
  | nil => simp [usageBelow, Usage.append, Usage.empty]
  | cons c cs ih =>
    rw [List.cons_append, usageBelow, usageBelow]
    simp only [ite_self, ih, Usage.append, List.append_assoc]

theorem usage_moduleOf (source : Source) (i : NodeInfo) (cs : List SyntaxTree) :
    usage (moduleOf source i cs) =
      usageBelow (operandText (moduleOf source i cs)) none cs := by
  rw [usage, moduleOf, usageOf]
  simp [nodeUsage, isOperation, kind, info, Usage.append, Usage.empty]

end Usage

section Nesting

variable {inIf : Bool} {depth elifs : Nat} {cs ds : List SyntaxTree}

theorem le_nestingBelow : depth ≤ nestingBelow inIf depth elifs cs := by
  induction cs generalizing elifs with
  | nil => rw [nestingBelow]
  | cons c cs ih =>
    rw [nestingBelow]
    exact ih.trans (Nat.le_max_right _ _)

theorem nestingBelow_append (h : ∀ c ∈ cs, c.kind ≠ "elif_clause") :
    nestingBelow inIf depth 0 (cs ++ ds) =
      max (nestingBelow inIf depth 0 cs) (nestingBelow inIf depth 0 ds) := by
  induction cs with
  | nil => rw [List.nil_append, nestingBelow, Nat.max_eq_right le_nestingBelow]
  | cons c cs ih =>
    rw [List.forall_mem_cons] at h
    have hkind : (c.kind == "elif_clause") = false := beq_eq_false_iff_ne.mpr h.1
    rw [List.cons_append, nestingBelow, nestingBelow]
    simp only [hkind, Bool.false_eq_true, ↓reduceIte, ih h.2, Nat.max_assoc]

theorem nestingDepth_moduleOf (source : Source) (i : NodeInfo) (cs : List SyntaxTree) :
    nestingDepth (moduleOf source i cs).root = nestingBelow false 0 0 cs := by
  rw [nestingDepth, moduleOf, nestingFrom]
  simp [nests, kind, info]

end Nesting

structure Composed (m m₁ m₂ : SourceModule) : Prop where
  structureCounts_eq : structureCounts m = structureCounts m₁ + structureCounts m₂
  logicalLines_eq :
    (lineCounts m).logicalLines = (lineCounts m₁).logicalLines + (lineCounts m₂).logicalLines
  total_eq : (complexity m).total = (complexity m₁).total + (complexity m₂).total
  blocks_eq : (complexity m).blocks = (complexity m₁).blocks ++ (complexity m₂).blocks
  max_eq : (complexity m).max = max (complexity m₁).max (complexity m₂).max
  nestingDepth_eq : nestingDepth m.root = max (nestingDepth m₁.root) (nestingDepth m₂.root)
  totalOperators_eq :
    (halstead m).totalOperators = (halstead m₁).totalOperators + (halstead m₂).totalOperators
  totalOperands_eq :
    (halstead m).totalOperands = (halstead m₁).totalOperands + (halstead m₂).totalOperands
  operatorSet_eq : operatorSet m = operatorSet m₁ ∪ operatorSet m₂
  operandSet_eq : operandSet m = operandSet m₁ ∪ operandSet m₂
  distinctOperators_eq : (halstead m).distinctOperators = (operatorSet m).card
  distinctOperands_eq : (halstead m).distinctOperands = (operandSet m).card

section Blocks

variable {nameOf : SyntaxTree → String} {t t₁ t₂ : SyntaxTree}

theorem complexityOf_append (h : t.children = t₁.children ++ t₂.children) :
    complexityOf nameOf t =
      { blocks := (complexityOf nameOf t₁).blocks ++ (complexityOf nameOf t₂).blocks
        total := (complexityOf nameOf t₁).total + (complexityOf nameOf t₂).total } := by
  simp only [complexityOf, scopeBelow_eq, h, scopeOf_append, Scope.append, List.map_append,
    List.flatMap_append, addUp_eq_sum, List.sum_append, Complexity.mk.injEq, true_and]
  omega

theorem Complexity.max_of_blocks {c c₁ c₂ : Complexity} (h : c.blocks = c₁.blocks ++ c₂.blocks) :
    c.max = Nat.max c₁.max c₂.max := by
  have hnone : ∀ n, Nat.max n 0 = n := Nat.max_zero
  unfold Complexity.max
  rw [h, List.map_append, List.foldl_append, ← @List.foldl_assoc Nat Nat.max, hnone]

end Blocks

section Composed

variable (source : Source) (i i₁ i₂ : NodeInfo) (cs ds : List SyntaxTree)

theorem complexity_moduleOf_append :
    complexity (moduleOf source i (cs ++ ds)) =
      { blocks := (complexity (moduleOf source i₁ cs)).blocks ++
          (complexity (moduleOf source i₂ ds)).blocks
        total := (complexity (moduleOf source i₁ cs)).total +
          (complexity (moduleOf source i₂ ds)).total } :=
  -- names are read off the one source text
  complexityOf_append rfl

theorem usage_moduleOf_append :
    usage (moduleOf source i (cs ++ ds)) =
      (usage (moduleOf source i₁ cs)).append (usage (moduleOf source i₂ ds)) := by
  simp only [usage_moduleOf]
  exact usageBelow_append cs ds

variable {cs}

/-- The measures of two lists of statements go together to those of both, one after the other. No
statement is an `elif`, which is a branch of an `if`. -/
theorem moduleOf_append_composed (h : ∀ c ∈ cs, c.kind ≠ "elif_clause") :
    Composed (moduleOf source i (cs ++ ds)) (moduleOf source i₁ cs) (moduleOf source i₂ ds) := by
  have hcomplexity := complexity_moduleOf_append source i i₁ i₂ cs ds
  have husage := usage_moduleOf_append source i i₁ i₂ cs ds
  constructor
  case structureCounts_eq => exact countStructure_walk_append rfl rfl rfl rfl
  case logicalLines_eq => exact countP_walk_append rfl rfl rfl rfl
  case total_eq => rw [hcomplexity]
  case blocks_eq => rw [hcomplexity]
  case max_eq => exact Complexity.max_of_blocks (congrArg Complexity.blocks hcomplexity)
  case nestingDepth_eq => simp only [nestingDepth_moduleOf, nestingBelow_append h]
  case totalOperators_eq =>
    simp only [halstead_eq, husage, Usage.counts, Usage.append, List.length_append]
  case totalOperands_eq =>
    simp only [halstead_eq, husage, Usage.counts, Usage.append, List.length_append]
  case operatorSet_eq =>
    rw [operatorSet, husage, Usage.append, List.toFinset_append]
    rfl
  case operandSet_eq =>
    rw [operandSet, husage, Usage.append, List.toFinset_append]
    rfl
  case distinctOperators_eq => exact length_eraseDups_eq_card (usage _).operators
  case distinctOperands_eq => exact length_eraseDups_eq_card (usage _).operands

def branching : SyntaxTree :=
  node "if_statement" none
    [node "boolean_operator" "condition" [node "and" "operator" []],
      node "elif_clause" "alternative" []]
where
  node (kind : String) (field : Option String) (children : List SyntaxTree) : SyntaxTree :=
    .node { (default : NodeInfo) with kind, field } children

theorem moduleOf_append_composed_branching : (∀ c ∈ [branching], c.kind ≠ "elif_clause") ∧
    let m := moduleOf (Source.ofString "") default ([branching] ++ [branching])
    nestingDepth m.root = 2 ∧ (complexity m).total = 6 ∧ (halstead m).totalOperators = 2 ∧
      (halstead m).distinctOperators = 1 := by
  have htop : ∀ c ∈ [branching], c.kind ≠ "elif_clause" := by decide +kernel
  have h := moduleOf_append_composed (Source.ofString "") default default default [branching] htop
  refine ⟨htop, ?_, ?_, ?_, ?_⟩
  . rw [h.nestingDepth_eq]
    decide +kernel
  . rw [h.total_eq]
    decide +kernel
  . rw [h.totalOperators_eq]
    decide +kernel
  . rw [h.distinctOperators_eq, h.operatorSet_eq]
    decide +kernel

end Composed

end CodeAppraisal.Metrics
