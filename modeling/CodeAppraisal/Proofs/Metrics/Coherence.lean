import CodeAppraisal.Proofs.ExactQuantity
import CodeAppraisal.Proofs.Metrics.ChainOperands
import CodeAppraisal.Proofs.Metrics.Layout

/-!
This module shows that Halstead's counts fit together: there are no operators without operands, and
so what is worked out from the counts makes sense.
-/
namespace CodeAppraisal.Metrics

open CodeAppraisal.Parsing SyntaxTree

def tokens (t : SyntaxTree) : List SyntaxTree := t.children.filter fun c => !c.named

def operandsIn (t : SyntaxTree) : List SyntaxTree :=
  t.children.filter fun c => c.named && !Grammar.Python.description.extras.contains c.kind

def allows (kind : String) (tokens operands : Nat) : Bool :=
  match kind with
  | "unary_operator" | "not_operator" => tokens == 1 && operands == 1
  | "binary_operator" | "augmented_assignment" => tokens == 1 && operands == 2
  | "comparison_operator" => 1 ≤ tokens && operands == tokens + 1
  | _ => false

def Formed (t : SyntaxTree) : Prop :=
  if t.kind = "boolean_operator" then HasParts t
  else allows t.kind (tokens t).length (operandsIn t).length = true ∧
    ∀ c ∈ tokens t, c.kind ≠ "(" ∧ c.kind ≠ ")"

instance (t : SyntaxTree) : Decidable (Formed t) :=
  inferInstanceAs (Decidable (if t.kind = "boolean_operator" then HasParts t
    else allows t.kind (tokens t).length (operandsIn t).length = true ∧
      ∀ c ∈ tokens t, c.kind ≠ "(" ∧ c.kind ≠ ")"))

def Usage.Sound (u : Usage) : Prop :=
  0 < u.operators.length ∧ u.operators.length ≤ u.operands.length

section Node

variable {text : SyntaxTree → List Char} {t : SyntaxTree}

theorem le_of_allows {kind : String} {tokens operands : Nat} (h : allows kind tokens operands) :
    0 < tokens ∧ tokens ≤ operands := by
  unfold allows at h
  split at h
  all_goals
    simp only [Bool.and_eq_true, beq_iff_eq, decide_eq_true_eq, Bool.false_eq_true] at h
  all_goals omega

theorem operationUsage_sound (h : Formed t) (hboolean : t.kind ≠ "boolean_operator") :
    (operationUsage text t).Sound := by
  rw [Formed, if_neg hboolean] at h
  have hoperators : (operationUsage text t).operators = (tokens t).map (·.kind) := by
    unfold operationUsage tokens
    dsimp only
    congr 1
    apply List.filter_congr
    intro c hc
    cases hnamed : c.named with
    | true => rfl
    | false =>
      obtain ⟨hopen, hclose⟩ := h.2 c (List.mem_filter.mpr ⟨hc, by simp [hnamed]⟩)
      simp [hopen, hclose]
  have hoperands : (operandsIn t).length ≤ (operationUsage text t).operands.length := by
    rw [operationUsage, List.length_map]
    apply List.Sublist.length_le
    apply List.monotone_filter_right
    intro c hc
    simp only [Grammar.Python.description, Bool.and_eq_true] at hc
    simp_all
  have := le_of_allows h.1
  rw [Usage.Sound, hoperators, List.length_map]
  omega

theorem length_chainOperands (operator : Option String) (t : SyntaxTree) :
    (t.child? "right").toList.length ≤ (chainOperands operator t).length := by
  cases h : t.child? "left" with
  | none => rw [chainOperands_of_no_left h]
  | some left => simp [chainOperands_of_left h]

theorem chainUsage_sound (h : HasParts t) : (chainUsage text t).Sound := by
  obtain ⟨operator, hoperator⟩ := Option.isSome_iff_exists.mp (h "operator" (by simp))
  obtain ⟨right, hright⟩ := Option.isSome_iff_exists.mp (h "right" (by simp))
  have hone : (booleanOperator t).toList.length = 1 := by
    rw [booleanOperator, hoperator]
    rfl
  have hlength := length_chainOperands (booleanOperator t) t
  rw [hright, Option.toList_some, List.length_singleton] at hlength
  simp only [chainUsage, Usage.Sound, hone, List.length_map]
  omega

theorem nodeUsage_sound (h : Formed t) (hoperation : isOperation t.kind = true) :
    (nodeUsage text false t).Sound := by
  rw [nodeUsage, if_pos hoperation]
  split
  . next hboolean =>
    rw [Formed, if_pos (beq_iff_eq.mp hboolean)] at h
    exact chainUsage_sound h
  . next hboolean => exact operationUsage_sound h (by simpa using hboolean)

theorem nodeUsage_eq_or (text : SyntaxTree → List Char) (inChain : Bool) (t : SyntaxTree) :
    nodeUsage text inChain t = .empty ∨ nodeUsage text inChain t = nodeUsage text false t := by
  cases inChain with
  | false => exact .inr rfl
  | true =>
    unfold nodeUsage
    cases t.kind == "boolean_operator" with
    | true => exact .inl rfl
    | false => exact .inr rfl

end Node

section Tree

variable {text : SyntaxTree → List Char} {t : SyntaxTree} {P : Usage → Prop}

theorem usageBelow_induction (hempty : P .empty) (happend : ∀ u v, P u → P v → P (u.append v))
    {cs : List SyntaxTree} (h : ∀ c ∈ cs, ∀ inChain, P (usageOf text inChain c))
    (chain : Option (Option String)) : P (usageBelow text chain cs) := by
  induction cs generalizing chain with
  | nil => exact hempty
  | cons c cs ih =>
    rw [List.forall_mem_cons] at h
    rw [usageBelow]
    exact happend _ _ (h.1 _) (ih h.2 _)

theorem usageOf_induction (hempty : P .empty) (happend : ∀ u v, P u → P v → P (u.append v))
    (h : ∀ u ∈ t.walk, ∀ inChain, P (nodeUsage text inChain u)) (inChain : Bool) :
    P (usageOf text inChain t) := by
  induction t using SyntaxTree.induction generalizing inChain with
  | h t ih =>
    rw [forall_mem_walk] at h
    rw [usageOf_eq]
    apply happend _ _ (h.1 inChain)
    apply usageBelow_induction hempty happend
    intro c hc b
    exact ih c hc (h.2 c hc) b

theorem length_operators_le (h : ∀ u ∈ t.walk, isOperation u.kind = true → Formed u)
    (inChain : Bool) : (usageOf text inChain t).operators.length ≤
      (usageOf text inChain t).operands.length := by
  apply usageOf_induction (P := fun u => u.operators.length ≤ u.operands.length)
  . exact Nat.le_refl 0
  . intro u v hu hv
    simp only [Usage.append, List.length_append]
    omega
  . intro u hu inChain
    cases hoperation : isOperation u.kind with
    | false => simp [nodeUsage_eq_empty hoperation, Usage.empty]
    | true =>
      obtain hempty | hsame := nodeUsage_eq_or text inChain u
      . simp [hempty, Usage.empty]
      . exact hsame ▸ (nodeUsage_sound (h u hu hoperation) hoperation).2

theorem usageOf_eq_empty (h : ∀ u ∈ t.walk, isOperation u.kind = false) (inChain : Bool) :
    usageOf text inChain t = .empty := by
  apply usageOf_induction (P := (· = .empty))
  . rfl
  . rintro _ _ rfl rfl
    rfl
  . exact fun u hu => nodeUsage_eq_empty (h u hu)

theorem operators_usageBelow_none (cs : List SyntaxTree) :
    (usageBelow text none cs).operators = cs.flatMap fun c => (usageOf text false c).operators := by
  induction cs with
  | nil => rfl
  | cons c cs ih =>
    rw [usageBelow, List.flatMap_cons, ← ih]
    simp [Usage.append]

theorem isOperation_of_operators_eq_nil
    (hformed : ∀ u ∈ t.walk, isOperation u.kind = true → Formed u)
    (hnil : (usageOf text false t).operators = []) : ∀ u ∈ t.walk, isOperation u.kind = false := by
  induction t using SyntaxTree.induction with
  | h t ih =>
    rw [forall_mem_walk] at hformed ⊢
    rw [usageOf_eq] at hnil
    obtain ⟨hnode, hbelow⟩ := List.append_eq_nil_iff.mp hnil
    -- the topmost operation is counted whatever is below it
    have hoperation : isOperation t.kind = false := by
      by_contra htrue
      rw [Bool.not_eq_false] at htrue
      have hsound : (nodeUsage text false t).Sound := nodeUsage_sound (hformed.1 htrue) htrue
      exact List.length_pos_iff.mp hsound.1 hnode
    rw [if_neg (by simpa using ne_boolean_operator hoperation), operators_usageBelow_none,
      List.flatMap_eq_nil_iff] at hbelow
    exact ⟨hoperation, fun c hc => ih c hc (hformed.2 c hc) (hbelow c hc)⟩

end Tree

structure HalsteadCounts.Coherent (c : HalsteadCounts) : Prop where
  distinctOperators_le : c.distinctOperators ≤ c.totalOperators
  distinctOperands_le : c.distinctOperands ≤ c.totalOperands
  totalOperators_le : c.totalOperators ≤ c.totalOperands
  none_or_all :
    (c.distinctOperators = 0 ∧ c.distinctOperands = 0 ∧ c.totalOperators = 0 ∧
      c.totalOperands = 0) ∨
    (0 < c.distinctOperators ∧ 0 < c.distinctOperands ∧ 0 < c.totalOperators ∧
      0 < c.totalOperands)

theorem Usage.counts_coherent {u : Usage} (hle : u.operators.length ≤ u.operands.length)
    (hnone : u.operators = [] → u.operands = []) : u.counts.Coherent := by
  constructor
  case distinctOperators_le =>
    simp only [counts, length_eraseDups_eq_card]
    exact List.toFinset_card_le _
  case distinctOperands_le =>
    simp only [counts, length_eraseDups_eq_card]
    exact List.toFinset_card_le _
  case totalOperators_le => exact hle
  case none_or_all =>
    simp only [counts, length_eraseDups_eq_card]
    by_cases hoperators : u.operators = []
    . left
      simp [hoperators, hnone hoperators]
    . right
      have hlength := List.length_pos_iff.mpr hoperators
      have hoperands : u.operands ≠ [] := List.length_pos_iff.mp (hlength.trans_le hle)
      refine ⟨?_, ?_, hlength, List.length_pos_iff.mpr hoperands⟩
      . rwa [Finset.card_pos, List.toFinset_nonempty_iff]
      . rwa [Finset.card_pos, List.toFinset_nonempty_iff]

namespace HalsteadCounts

section Difficulty

variable {α : Type} [Quantity α]

def dividedBy? (x : α) (n : Nat) : Option α := if n = 0 then none else some (x / Quantity.ofNat n)

def difficulty? (c : HalsteadCounts) : Option α :=
  if c.distinctOperands > 0 then
    (dividedBy? (Quantity.ofNat c.totalOperands) c.distinctOperands).map
      (Quantity.ofNat c.distinctOperators / 2.0 * ·)
  else some 0.0

theorem difficulty?_eq (c : HalsteadCounts) : c.difficulty? = some (c.difficulty : α) := by
  unfold difficulty? difficulty
  split
  . next hpos => rw [dividedBy?, if_neg hpos.ne', Option.map_some]
  . rfl

end Difficulty

section Volume

variable {K : Type} [Field K] [LinearOrder K] [ElementaryFunctions K] {c : HalsteadCounts}

theorem length_eq_cast (c : HalsteadCounts) :
    (c.length : K) = (c.totalOperators + c.totalOperands : Nat) := rfl

theorem vocabulary_eq_cast (c : HalsteadCounts) :
    (c.vocabulary : K) = (c.distinctOperators + c.distinctOperands : Nat) := rfl

variable [IsStrictOrderedRing K]

theorem volume_of_none (h : c.totalOperators + c.totalOperands = 0) : (c.volume : K) = 0 := by
  have hzero : (0.0 : K) = 0 := by norm_num
  rw [volume, h, ← hzero]
  simp only [gt_iff_lt, Nat.lt_irrefl, decide_false, Bool.and_false, Bool.false_eq_true, ↓reduceIte]

theorem Coherent.two_le_vocabulary (h : c.Coherent) (hlength : 0 < (c.length : K)) :
    2 ≤ (c.vocabulary : K) := by
  rw [length_eq_cast, Nat.cast_pos] at hlength
  have hdistinct : 2 ≤ c.distinctOperators + c.distinctOperands := by
    have := h.none_or_all
    omega
  rw [vocabulary_eq_cast]
  exact_mod_cast hdistinct

variable [LawfulBinaryLogarithm K]

theorem Coherent.length_le_volume (h : c.Coherent) : (c.length : K) ≤ c.volume := by
  by_cases hnone : c.totalOperators + c.totalOperands = 0
  . rw [volume_of_none hnone, length_eq_cast, hnone, Nat.cast_zero]
  . have hdistinct : 0 < c.distinctOperators + c.distinctOperands := by
      have := h.none_or_all
      omega
    have hlength : 0 < (c.length : K) := by
      rw [length_eq_cast, Nat.cast_pos]
      omega
    -- where something is counted there are an operator and an operand
    have hlog : 1 ≤ ElementaryFunctions.log2 (c.vocabulary : K) := by
      rw [← LawfulBinaryLogarithm.log2_two (K := K)]
      exact LawfulBinaryLogarithm.log2_le_log2 two_pos (h.two_le_vocabulary hlength)
    rw [volume, if_pos (by simp; omega)]
    exact le_mul_of_one_le_right hlength.le hlog

theorem Coherent.volume_eq_zero_iff (h : c.Coherent) :
    (c.volume : K) = 0 ↔ c.totalOperators = 0 := by
  have hall := h.none_or_all
  constructor
  . intro hvolume
    have hlength := h.length_le_volume (K := K)
    rw [hvolume, length_eq_cast, ← Nat.cast_zero, Nat.cast_le] at hlength
    omega
  . intro hnone
    exact volume_of_none (by omega)

end Volume

end HalsteadCounts

structure MakesSense (K : Type) [Field K] [LinearOrder K] [ElementaryFunctions K]
    (m : SourceModule) : Prop where
  coherent : (halstead m).Coherent
  two_le_vocabulary : 0 < ((halstead m).length : K) → 2 ≤ ((halstead m).vocabulary : K)
  volume_eq_zero_iff :
    ((halstead m).volume : K) = 0 ↔ ∀ u ∈ m.root.walk, isOperation u.kind = false
  length_le_volume : ((halstead m).length : K) ≤ (halstead m).volume
  difficulty?_eq : (halstead m).difficulty? = some ((halstead m).difficulty : K)

section Module

variable {m : SourceModule}

theorem usage_of_none (h : ∀ u ∈ m.root.walk, isOperation u.kind = false) : usage m = .empty :=
  usageOf_eq_empty h false

theorem operators_eq_nil_iff (h : ∀ u ∈ m.root.walk, isOperation u.kind = true → Formed u) :
    (usage m).operators = [] ↔ ∀ u ∈ m.root.walk, isOperation u.kind = false := by
  constructor
  . exact isOperation_of_operators_eq_nil h
  . intro hnone
    rw [usage_of_none hnone]
    rfl

theorem halstead_coherent (h : ∀ u ∈ m.root.walk, isOperation u.kind = true → Formed u) :
    (halstead m).Coherent := by
  rw [halstead_eq]
  apply Usage.counts_coherent
  . exact length_operators_le h false
  . intro hnil
    rw [usage_of_none ((operators_eq_nil_iff h).mp hnil)]
    rfl

end Module

theorem halstead_makesSense {K : Type} [Field K] [LinearOrder K] [IsStrictOrderedRing K]
    [ElementaryFunctions K] [LawfulBinaryLogarithm K] (m : SourceModule)
    (h : ∀ u ∈ m.root.walk, isOperation u.kind = true → Formed u) : MakesSense K m := by
  have hcoherent := halstead_coherent h
  constructor
  case coherent => exact hcoherent
  case two_le_vocabulary => exact hcoherent.two_le_vocabulary
  case volume_eq_zero_iff =>
    rw [hcoherent.volume_eq_zero_iff, ← operators_eq_nil_iff h, ← List.length_eq_zero_iff]
    rfl
  case length_le_volume => exact hcoherent.length_le_volume
  case difficulty?_eq => exact HalsteadCounts.difficulty?_eq _

/-- The tree of `x += -y` and `not a < b <= c and d and e`, without texts and with a line joined. -/
def someOperations : SyntaxTree :=
  node "module" none
    [node "augmented_assignment" none [name none, token "+=" none,
      node "unary_operator" none [token "-" none, name none]],
    boolean (boolean (node "not_operator" (some "left") [token "not" none,
        node "comparison_operator" none [name none, token "<" none, name none,
          node "line_continuation" none [], token "<=" none, name none]])
      (some "left")) none]
where
  node (kind : String) (field : Option String) (children : List SyntaxTree) : SyntaxTree :=
    .node { (default : NodeInfo) with kind, field, named := true } children
  token (kind : String) (field : Option String) : SyntaxTree :=
    .node { (default : NodeInfo) with kind, field } []
  name (field : Option String) : SyntaxTree := node "identifier" field []
  boolean (left : SyntaxTree) (field : Option String) : SyntaxTree :=
    node "boolean_operator" field [left, token "and" (some "operator"), name (some "right")]

theorem halstead_makesSense_operations :
    (∀ u ∈ someOperations.walk, isOperation u.kind = true → Formed u) ∧
      (halstead ⟨Source.ofString "", someOperations⟩).totalOperators = 6 ∧
      (12 : ℝ) ≤ (halstead ⟨Source.ofString "", someOperations⟩).volume := by
  have hformed : ∀ u ∈ someOperations.walk, isOperation u.kind = true → Formed u := by
    simp only [(walk_perm someOperations).mem_iff]
    decide +kernel
  have hsense : MakesSense ℝ _ := halstead_makesSense ⟨Source.ofString "", someOperations⟩ hformed
  have htotal : (halstead ⟨Source.ofString "", someOperations⟩).totalOperators = 6 := by
    decide +kernel
  refine ⟨hformed, htotal, le_trans ?_ hsense.length_le_volume⟩
  have hle := hsense.coherent.totalOperators_le
  rw [htotal] at hle
  rw [HalsteadCounts.length_eq_cast, htotal]
  exact_mod_cast Nat.add_le_add_left hle 6

end CodeAppraisal.Metrics
