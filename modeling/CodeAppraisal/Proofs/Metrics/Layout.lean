import CodeAppraisal.Proofs.Metrics.Composition
import CodeAppraisal.Proofs.Metrics.Usage

/-!
This module shows what the layout of a text has to do with Halstead's counts. Comments and joined
lines may stand among the operands of an operation. A comment there changes nothing; a joined line
is taken for an operand, unless the operation is boolean.
-/
namespace CodeAppraisal.Metrics

open CodeAppraisal.Parsing SyntaxTree

def isExtra (t : SyntaxTree) : Bool :=
  t.named && Grammar.Python.description.extras.contains t.kind && t.info.field.isNone &&
    t.children.isEmpty

mutual

def withoutExtras : SyntaxTree → SyntaxTree
  | .node i cs => .node i (withoutExtrasBelow (isOperation i.kind) cs)

def withoutExtrasBelow (inOperation : Bool) : List SyntaxTree → List SyntaxTree
  | [] => []
  | c :: cs =>
    let rest := withoutExtrasBelow inOperation cs
    if inOperation && isExtra c then rest else withoutExtras c :: rest

end

def isJoin (t : SyntaxTree) : Bool := isExtra t && t.kind == "line_continuation"

def joinsIn (t : SyntaxTree) : List SyntaxTree :=
  if isOperation t.kind && t.kind != "boolean_operator" then t.children.filter isJoin else []

def joins (t : SyntaxTree) : List SyntaxTree := t.nodes.flatMap joinsIn

section WithoutExtras

variable {t : SyntaxTree}

theorem withoutExtrasBelow_eq (b : Bool) (cs : List SyntaxTree) :
    withoutExtrasBelow b cs = (cs.filter fun c => !(b && isExtra c)).map withoutExtras := by
  induction cs with
  | nil => rfl
  | cons c cs ih =>
    rw [withoutExtrasBelow, ih, List.filter_cons]
    cases b && isExtra c <;> rfl

@[simp]
theorem info_withoutExtras (t : SyntaxTree) : (withoutExtras t).info = t.info := by
  cases t
  rfl

@[simp]
theorem kind_withoutExtras (t : SyntaxTree) : (withoutExtras t).kind = t.kind := by
  rw [kind, info_withoutExtras, kind]

@[simp]
theorem named_withoutExtras (t : SyntaxTree) : (withoutExtras t).named = t.named := by
  rw [named, info_withoutExtras, named]

theorem children_withoutExtras (t : SyntaxTree) : (withoutExtras t).children =
    (t.children.filter fun c => !(isOperation t.kind && isExtra c)).map withoutExtras := by
  cases t
  exact withoutExtrasBelow_eq _ _

theorem named_of_isExtra (h : isExtra t) : t.named = true := by
  simp only [isExtra, Bool.and_eq_true] at h
  exact h.1.1.1

theorem kind_of_isExtra (h : isExtra t) : t.kind = "comment" ∨ t.kind = "line_continuation" := by
  simp only [isExtra, Bool.and_eq_true] at h
  simpa [Grammar.Python.description] using h.1.1.2

theorem field_of_isExtra (h : isExtra t) : t.info.field = none := by
  simp only [isExtra, Bool.and_eq_true] at h
  simpa using h.1.2

theorem children_of_isExtra (h : isExtra t) : t.children = [] := by
  simp only [isExtra, Bool.and_eq_true] at h
  simpa using h.2

theorem isOperation_of_isExtra (h : isExtra t) : isOperation t.kind = false := by
  cases kind_of_isExtra h with
  | inl h => rw [h]; rfl
  | inr h => rw [h]; rfl

theorem child?_withoutExtras (t : SyntaxTree) (field : String) :
    (withoutExtras t).child? field = (t.child? field).map withoutExtras := by
  simp only [child?, children_withoutExtras, List.find?_map, List.find?_filter]
  congr 2
  funext c
  cases hextra : isExtra c with
  | false => simp [beq_eq_decide]
  | true => simp [field_of_isExtra hextra]

@[simp]
theorem booleanOperator_withoutExtras (t : SyntaxTree) :
    booleanOperator (withoutExtras t) = booleanOperator t := by
  simp [booleanOperator, child?_withoutExtras, Function.comp_def]

@[simp]
theorem continuesChain_withoutExtras (operator : Option String) (t : SyntaxTree) :
    continuesChain operator (withoutExtras t) = continuesChain operator t := by
  simp [continuesChain]

theorem chainOperands_withoutExtras (operator : Option String) (t : SyntaxTree) :
    chainOperands operator (withoutExtras t) = (chainOperands operator t).map withoutExtras := by
  induction t using SyntaxTree.induction with
  | h t ih =>
    have hleft := child?_withoutExtras t "left"
    cases h : t.child? "left" with
    | none =>
      rw [h] at hleft
      rw [chainOperands_of_no_left hleft, chainOperands_of_no_left h, child?_withoutExtras]
      cases t.child? "right" <;> rfl
    | some left =>
      rw [h] at hleft
      rw [chainOperands_of_left hleft, chainOperands_of_left h, child?_withoutExtras,
        continuesChain_withoutExtras, List.map_append, ih left (child?_mem h)]
      congr 1
      . split <;> rfl
      . cases t.child? "right" <;> rfl

end WithoutExtras

structure Usage.Extends (u v : Usage) (more : List (List Char)) : Prop where
  operators_eq : u.operators = v.operators
  operands_perm : u.operands.Perm (v.operands ++ more)

theorem Usage.Extends.rfl {u : Usage} : u.Extends u [] :=
  ⟨Eq.refl _, by rw [List.append_nil]⟩

theorem Usage.Extends.append {u v u' v' : Usage} {more more' : List (List Char)}
    (h : u.Extends v more) (h' : u'.Extends v' more') :
    (u.append u').Extends (v.append v') (more ++ more') := by
  constructor
  . simp only [Usage.append, h.operators_eq, h'.operators_eq]
  . simp only [Usage.append]
    refine (h.operands_perm.append h'.operands_perm).trans ?_
    rw [List.append_assoc, List.append_assoc]
    exact (List.perm_append_comm_assoc _ _ _).append_left _

section Usage

variable {text : SyntaxTree → List Char} {t : SyntaxTree}

def ReadsInfo (text : SyntaxTree → List Char) : Prop := ∀ t u, t.info = u.info → text t = text u

theorem isJoin_eq (t : SyntaxTree) : isJoin t = (isExtra t && t.named && t.kind != "comment") := by
  unfold isJoin
  cases h : isExtra t with
  | false => rfl
  | true => cases kind_of_isExtra h <;> simp [named_of_isExtra h, *]

theorem operationUsage_withoutExtras (htext : ReadsInfo text) (h : isOperation t.kind = true) :
    (operationUsage text t).Extends (operationUsage text (withoutExtras t))
      ((t.children.filter isJoin).map text) := by
  have hchildren : (withoutExtras t).children =
      (t.children.filter fun c => !isExtra c).map withoutExtras := by
    simp only [children_withoutExtras, h, Bool.true_and]
  constructor
  . simp only [operationUsage, hchildren, List.filter_map, List.map_map, List.filter_filter,
      Function.comp_def, named_withoutExtras, kind_withoutExtras]
    congr 1
    apply List.filter_congr
    intro c _
    cases hextra : isExtra c with
    | false => simp
    | true => simp [named_of_isExtra hextra]
  . have htexts : text ∘ withoutExtras = text := funext fun c => htext _ _ (info_withoutExtras c)
    have hjoins : t.children.filter isJoin =
        (t.children.filter fun c => c.named && c.kind != "comment").filter isExtra := by
      rw [List.filter_filter]
      exact List.filter_congr fun c _ => by rw [isJoin_eq, Bool.and_assoc]
    simp only [operationUsage, hchildren, List.filter_map, List.map_map, htexts, hjoins]
    rw [← List.map_append]
    apply List.Perm.map
    simp only [Function.comp_def, named_withoutExtras, kind_withoutExtras]
    rw [List.filter_comm]
    exact (List.perm_append_comm.trans (List.filter_append_perm _ _)).symm

theorem joins_eq (t : SyntaxTree) : joins t = joinsIn t ++ t.children.flatMap joins := by
  rw [joins, nodes_eq, List.flatMap_cons, List.flatMap_assoc]
  rfl

theorem nodeUsage_withoutExtras (htext : ReadsInfo text) (inChain : Bool) (t : SyntaxTree) :
    (nodeUsage text inChain t).Extends (nodeUsage text inChain (withoutExtras t))
      ((joinsIn t).map text) := by
  unfold nodeUsage joinsIn
  rw [kind_withoutExtras]
  split
  . next hboolean =>
    have htexts : text ∘ withoutExtras = text := funext fun c => htext _ _ (info_withoutExtras c)
    have hchain : chainUsage text (withoutExtras t) = chainUsage text t := by
      simp only [chainUsage, booleanOperator_withoutExtras, chainOperands_withoutExtras,
        List.map_map, htexts]
    simp only [hchain, bne, hboolean, Bool.not_true, Bool.and_false, Bool.false_eq_true, ↓reduceIte]
    exact .rfl
  . next hboolean =>
    split
    . next hoperation =>
      simp only [hoperation, bne, hboolean, Bool.not_false, Bool.and_self, ↓reduceIte]
      exact operationUsage_withoutExtras htext hoperation
    . next hoperation =>
      simp only [hoperation, Bool.false_and, Bool.false_eq_true, ↓reduceIte]
      exact .rfl

theorem usageOf_of_isExtra (h : isExtra t) (inChain : Bool) : usageOf text inChain t = .empty := by
  rw [usageOf_eq, nodeUsage_eq_empty (isOperation_of_isExtra h), children_of_isExtra h,
    Usage.empty_append, usageBelow]

theorem joins_of_isExtra (h : isExtra t) : joins t = [] := by
  rw [joins_eq, joinsIn, isOperation_of_isExtra h, children_of_isExtra h]
  rfl

theorem usageBelow_withoutExtras {cs : List SyntaxTree}
    (ih : ∀ c ∈ cs, ∀ inChain, (usageOf text inChain c).Extends
      (usageOf text inChain (withoutExtras c)) ((joins c).map text))
    (inOperation : Bool) (chain : Option (Option String)) :
    (usageBelow text chain cs).Extends
      (usageBelow text chain (withoutExtrasBelow inOperation cs))
      ((cs.flatMap joins).map text) := by
  induction cs generalizing chain with
  | nil => exact .rfl
  | cons c cs ihcs =>
    rw [List.forall_mem_cons] at ih
    rw [withoutExtrasBelow, List.flatMap_cons, List.map_append]
    cases hextra : inOperation && isExtra c with
    | true =>
      -- an extra is no left operand, so the chain goes on behind it
      rw [Bool.and_eq_true] at hextra
      rw [usageBelow, usageOf_of_isExtra hextra.2, joins_of_isExtra hextra.2,
        field_of_isExtra hextra.2]
      exact ihcs ih.2 chain
    | false =>
      simp only [usageBelow, info_withoutExtras, continuesChain_withoutExtras, Bool.false_eq_true,
        ↓reduceIte]
      exact (ih.1 _).append (ihcs ih.2 _)

theorem usageOf_withoutExtras (htext : ReadsInfo text) (inChain : Bool) (t : SyntaxTree) :
    (usageOf text inChain t).Extends (usageOf text inChain (withoutExtras t))
      ((joins t).map text) := by
  induction t using SyntaxTree.induction generalizing inChain with
  | h t ih =>
    have hnode := nodeUsage_withoutExtras htext inChain t
    have hoperator := booleanOperator_withoutExtras t
    have hkind := kind_withoutExtras t
    cases t with
    | node i cs =>
      rw [withoutExtras] at *
      rw [usageOf, usageOf, joins_eq, List.map_append, hoperator, hkind]
      exact hnode.append (usageBelow_withoutExtras (fun c hc b => ih c hc b) _ _)

end Usage

/-- Two trees of one text that differ by extras among the children of operations only. -/
structure Relaid (m m' : SourceModule) : Prop where
  source_eq : m.source = m'.source
  tree_eq : withoutExtras m.root = withoutExtras m'.root

def joinTexts (m : SourceModule) : List (List Char) := (joins m.root).map (operandText m)

theorem readsInfo_operandText (m : SourceModule) : ReadsInfo (operandText m) := by
  intro t u h
  simp only [operandText, SourceModule.text, start, stop, h]

theorem usage_withoutExtras (m : SourceModule) : (usage m).Extends
    (usageOf (operandText m) false (withoutExtras m.root)) (joinTexts m) :=
  usageOf_withoutExtras (readsInfo_operandText m) false m.root

structure CountsBesidesJoins (m m' : SourceModule) : Prop where
  distinctOperators_eq : (halstead m).distinctOperators = (halstead m').distinctOperators
  totalOperators_eq : (halstead m).totalOperators = (halstead m').totalOperators
  totalOperands_add : (halstead m).totalOperands + (joins m'.root).length =
    (halstead m').totalOperands + (joins m.root).length
  operandSet_union :
    operandSet m ∪ (joinTexts m').toFinset = operandSet m' ∪ (joinTexts m).toFinset
  halstead_eq : joins m.root = [] → joins m'.root = [] → halstead m = halstead m'

/-- Two trees of one text that differ by extras among the operands have the same counts, as long as
the extras are comments or the operations boolean. -/
theorem halstead_of_relaid {m m' : SourceModule} (h : Relaid m m') : CountsBesidesJoins m m' := by
  have htext : operandText m = operandText m' := by
    unfold operandText SourceModule.text
    rw [h.source_eq]
  have hm := usage_withoutExtras m
  have hm' := usage_withoutExtras m'
  rw [htext, h.tree_eq] at hm
  have hoperators := hm.operators_eq.trans hm'.operators_eq.symm
  have hlength := hm.operands_perm.length_eq
  have hlength' := hm'.operands_perm.length_eq
  have hset := List.toFinset_eq_of_perm _ _ hm.operands_perm
  have hset' := List.toFinset_eq_of_perm _ _ hm'.operands_perm
  rw [List.toFinset_append] at hset hset'
  constructor
  case distinctOperators_eq => simp only [halstead_eq, Usage.counts, hoperators]
  case totalOperators_eq => simp only [halstead_eq, Usage.counts, hoperators]
  case totalOperands_add =>
    rw [List.length_append, joinTexts, List.length_map] at hlength hlength'
    simp only [halstead_eq, Usage.counts]
    omega
  case operandSet_union =>
    rw [operandSet, operandSet, hset, hset', Finset.union_right_comm]
  case halstead_eq =>
    intro hjoins hjoins'
    simp only [joinTexts, hjoins, hjoins', List.map_nil] at hlength hlength' hset hset'
    simp only [halstead_eq, Usage.counts, hoperators, hlength, hlength', length_eraseDups_eq_card,
      hset, hset']

def sumWith (between : List SyntaxTree) : SourceModule where
  source := Source.ofString "a + \\\n#\nb"
  root := leaf "binary_operator" true 0 9 none <|
    [leaf "identifier" true 0 1 "left" [], leaf "+" false 2 3 "operator" []] ++ between ++
      [leaf "identifier" true 8 9 "right" []]
where
  leaf (kind : String) (named : Bool) (start stop : Nat) (field : Option String)
      (children : List SyntaxTree) : SyntaxTree :=
    .node ⟨kind, named, field, ⟨start, start, 0, start⟩, ⟨stop, stop, 0, stop⟩, .sound, false⟩
      children
  join : SyntaxTree := leaf "line_continuation" true 4 6 none []
  comment : SyntaxTree := leaf "comment" true 6 7 none []

theorem halstead_of_relaid_sum :
    Relaid (sumWith [sumWith.comment]) (sumWith []) ∧
      halstead (sumWith [sumWith.comment]) = ⟨1, 2, 1, 2⟩ := by
  have h : Relaid (sumWith [sumWith.comment]) (sumWith []) := ⟨rfl, rfl⟩
  refine ⟨h, ?_⟩
  rw [(halstead_of_relaid h).halstead_eq (by decide +kernel) (by decide +kernel)]
  decide +kernel

/-- A joined line among the operands is one more of them. -/
theorem exists_relaid_totalOperands_ne :
    ∃ m m' : SourceModule, Relaid m m' ∧ (halstead m).distinctOperands = 3 ∧
      (halstead m).totalOperands = 3 ∧ (halstead m').distinctOperands = 2 ∧
      (halstead m').totalOperands = 2 :=
  ⟨sumWith [sumWith.join], sumWith [], ⟨rfl, rfl⟩, by decide +kernel, by decide +kernel,
    by decide +kernel, by decide +kernel⟩

end CodeAppraisal.Metrics
