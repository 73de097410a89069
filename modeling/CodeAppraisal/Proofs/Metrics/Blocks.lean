import CodeAppraisal.Proofs.Metrics.OwnCode
import CodeAppraisal.Proofs.Parsing.DocumentOrder

/-!
This module shows which definitions of a tree have blocks, in which order the blocks come, and which
decisions the block of a function counts.
-/
namespace CodeAppraisal.Metrics

open CodeAppraisal.Parsing SyntaxTree

def ownNodes (t : SyntaxTree) : Finset Place := within scopeNodes t (bodyPlaces t)

def blockPlaces (root : SyntaxTree) : List Place :=
  (inOrder (scopeDefinitions root)).flatMap fun p =>
    p :: (inOrder ((root.at? p).elim ∅ methodPlaces)).map (p ++ ·)

structure Block.IsOf (b : Block) (nameOf : SyntaxTree → String) (t : SyntaxTree) : Prop where
  defines : defines t = true
  name_eq : b.name = nameOf (undecorated t)
  kind_eq_iff : b.kind = .classDef ↔ (undecorated t).kind = "class_definition"
  complexity_eq : b.kind ≠ .classDef →
    b.complexity = 1 + ∑ p ∈ ownNodes t, (t.at? p).elim 0 decisionPoints

theorem sum_ownNodes (t : SyntaxTree) :
    ∑ p ∈ ownNodes t, (t.at? p).elim 0 decisionPoints = (bodyScope (undecorated t)).decisions := by
  have h := functionComplexity_undecorated t
  rw [functionComplexity, Nat.add_left_cancel_iff] at h
  exact h.symm

theorem Block.IsOf.complexity_eq_functionComplexity {b : Block} {nameOf : SyntaxTree → String}
    {t : SyntaxTree} (h : b.IsOf nameOf t) (hkind : b.kind ≠ .classDef) :
    b.complexity = functionComplexity (undecorated t) := by
  rw [h.complexity_eq hkind, sum_ownNodes, functionComplexity]

section Places

variable {t : SyntaxTree} {p q r : Place}

theorem nil_notMem_scopeDefinitions (t : SyntaxTree) : [] ∉ scopeDefinitions t := by
  simp [scopeDefinitions]

theorem nil_notMem_methodPlaces (t : SyntaxTree) : [] ∉ methodPlaces t := by
  intro h
  obtain ⟨b, _, c, _, d, hd, happend⟩ := mem_within.mp (mem_methodPlaces h)
  rw [List.append_eq_nil_iff] at happend
  exact nil_notMem_scopeDefinitions c (happend.2 ▸ hd)

theorem kind_of_mem_methodPlaces (h : p ∈ methodPlaces t) :
    (undecorated t).kind = "class_definition" ∧
      (t.at? p).any fun m => (undecorated m).kind == "function_definition" := by
  unfold methodPlaces at h
  split at h
  . next hclass => exact ⟨beq_iff_eq.mp hclass, (Finset.mem_filter.mp h).2⟩
  . exact absurd h (Finset.notMem_empty p)

theorem exists_defines (h : p ∈ scopeDefinitions t) : ∃ c, t.at? p = some c ∧ defines c = true := by
  obtain ⟨_, _, _, hdef⟩ := Finset.mem_filter.mp h
  exact (Option.any_eq_true _ _).mp hdef

theorem mem_moduleMethods : p ∈ moduleMethods t ↔
    ∃ q ∈ scopeDefinitions t, ∃ c, t.at? q = some c ∧ ∃ m ∈ methodPlaces c, q ++ m = p :=
  mem_within

theorem append_notMem_scopeDefinitions (hp : p ∈ scopeDefinitions t) (hq : q ≠ []) :
    p ++ q ∉ scopeDefinitions t := by
  intro hpq
  have heq := apart_scopeDefinitions t p hp _ hpq (List.prefix_append p q)
  exact hq (List.self_eq_append_right.mp heq)

theorem notMem_moduleMethods (h : p ∈ scopeDefinitions t) : p ∉ moduleMethods t := by
  intro hmethod
  obtain ⟨q, hq, c, _, m, hm, rfl⟩ := mem_moduleMethods.mp hmethod
  exact append_notMem_scopeDefinitions hq (fun hnil => nil_notMem_methodPlaces c (hnil ▸ hm)) h

theorem mem_blockPlaces :
    p ∈ blockPlaces t ↔ p ∈ scopeDefinitions t ∨ p ∈ moduleMethods t := by
  simp only [blockPlaces, List.mem_flatMap, mem_inOrder, List.mem_cons, List.mem_map,
    mem_moduleMethods]
  constructor
  . rintro ⟨q, hq, rfl | ⟨m, hm, rfl⟩⟩
    . exact .inl hq
    . obtain ⟨c, hc, _⟩ := exists_defines hq
      rw [hc] at hm
      exact .inr ⟨q, hq, c, hc, m, hm, rfl⟩
  . rintro (hp | ⟨q, hq, c, hc, m, hm, rfl⟩)
    . exact ⟨p, hp, .inl rfl⟩
    . exact ⟨q, hq, .inr ⟨m, by rwa [hc], rfl⟩⟩

theorem blockPlaces_subset (t : SyntaxTree) : ∀ p ∈ blockPlaces t, p ∈ t.places := by
  intro p hp
  cases mem_blockPlaces.mp hp with
  | inl hp => exact scopeDefinitions_subset t hp
  | inr hp => exact within_subset methodPlaces_subset hp

theorem blockPlaces_pairwise (t : SyntaxTree) : (blockPlaces t).Pairwise (· < ·) := by
  rw [blockPlaces, List.pairwise_flatMap]
  constructor
  . intro p hp
    obtain ⟨c, hc, _⟩ := exists_defines (mem_inOrder.mp hp)
    rw [hc, Option.elim_some, List.pairwise_cons, List.pairwise_map]
    constructor
    . intro q hq
      obtain ⟨m, hm, rfl⟩ := List.mem_map.mp hq
      exact lt_append fun hnil => nil_notMem_methodPlaces c (hnil ▸ mem_inOrder.mp hm)
    . exact (inOrder_pairwise _).imp append_lt_append.mpr
  . refine (inOrder_pairwise _).imp_of_mem ?_
    intro p q hp hq hlt p' hp' q' hq'
    have hapart : ¬ p <+: q := fun hprefix =>
      hlt.ne (apart_scopeDefinitions t p (mem_inOrder.mp hp) q (mem_inOrder.mp hq) hprefix)
    have hin : ∀ s s', s' ∈ s :: (inOrder ((t.at? s).elim ∅ methodPlaces)).map (s ++ ·) →
        ∃ r, s' = s ++ r := by
      intro s s' hs'
      rw [List.mem_cons, List.mem_map] at hs'
      obtain rfl | ⟨r, _, rfl⟩ := hs'
      . exact ⟨[], by simp⟩
      . exact ⟨r, rfl⟩
    obtain ⟨r, rfl⟩ := hin p p' hp'
    obtain ⟨s, rfl⟩ := hin q q' hq'
    exact append_lt_append_of_apart hlt hapart r s

theorem append_mem_blockPlaces {c : SyntaxTree} (hp : p ∈ scopeDefinitions t)
    (hc : t.at? p = some c) (hq : q ≠ []) : p ++ q ∈ blockPlaces t ↔ q ∈ methodPlaces c := by
  rw [mem_blockPlaces, or_iff_right (append_notMem_scopeDefinitions hp hq), mem_moduleMethods]
  constructor
  . rintro ⟨o, ho, d, hd, m, hm, happend⟩
    obtain rfl := (apart_scopeDefinitions t).eq_of_append ho hp happend
    obtain rfl := Option.some.inj (hc.symm.trans hd)
    rwa [← List.append_cancel_left happend]
  . intro hmethod
    exact ⟨p, hp, c, hc, q, hmethod, rfl⟩

theorem notMem_blockPlaces_of_function {c : SyntaxTree} (hp : p ∈ blockPlaces t)
    (hc : t.at? p = some c) (hfunction : (undecorated c).kind = "function_definition")
    (hq : q ≠ []) : p ++ q ∉ blockPlaces t := by
  intro hpq
  cases mem_blockPlaces.mp hp with
  | inl hp =>
    have hclass := (kind_of_mem_methodPlaces ((append_mem_blockPlaces hp hc hq).mp hpq)).1
    simp [hfunction] at hclass
  | inr hp =>
    obtain ⟨o, ho, d, hd, m, hm, rfl⟩ := mem_moduleMethods.mp hp
    rw [List.append_assoc, append_mem_blockPlaces ho hd (by simp [hq])] at hpq
    have heq := apart_methodPlaces d m hm _ hpq (List.prefix_append m q)
    exact hq (List.self_eq_append_right.mp heq)

theorem notMem_methodPlaces_of_class {c d : SyntaxTree} {b : Place} (hb : b ∈ bodyPlaces c)
    (hq : q ≠ []) (hd : c.at? (b ++ q) = some d)
    (hclass : (undecorated d).kind = "class_definition") (r : Place) :
    b ++ q ++ r ∉ methodPlaces c := by
  intro hmethod
  obtain ⟨b', hb', body, hbody, n, hn, hsplit⟩ := mem_within.mp (mem_methodPlaces hmethod)
  rw [List.append_assoc] at hsplit
  obtain rfl := (apart_bodyPlaces c).eq_of_append hb' hb hsplit
  obtain rfl := List.append_cancel_left hsplit
  rw [at?_append, hbody, Option.bind_some] at hd
  have hdef : (body.at? q).any defines = true := by
    simp [hd, defines, isDefinition, hclass]
  -- a definition on the way to a method can only be the method itself, which is no class
  have hrest := eq_of_prefix_of_defines hn (List.prefix_append q r) hq hdef
  rw [List.self_eq_append_right] at hrest
  have hfunction := (kind_of_mem_methodPlaces hmethod).2
  simp [hrest, at?_append, hbody, hd, hclass] at hfunction

theorem notMem_blockPlaces_of_class {c d : SyntaxTree} {b : Place} (hp : p ∈ blockPlaces t)
    (hc : t.at? p = some c) (hb : b ∈ bodyPlaces c) (hq : q ≠ []) (hd : c.at? (b ++ q) = some d)
    (hclass : (undecorated d).kind = "class_definition") (r : Place) :
    p ++ (b ++ q ++ r) ∉ blockPlaces t := by
  have hbelow : b ++ q ++ r ≠ [] := by simp [hq]
  cases mem_blockPlaces.mp hp with
  | inl houter =>
    rw [append_mem_blockPlaces houter hc hbelow]
    exact notMem_methodPlaces_of_class hb hq hd hclass r
  | inr hmethod =>
    obtain ⟨o, _, e, he, m, hm, rfl⟩ := mem_moduleMethods.mp hmethod
    have hfunction := (kind_of_mem_methodPlaces hm).2
    have hat := hc
    rw [at?_append, he, Option.bind_some] at hat
    rw [hat, Option.any_some, beq_iff_eq] at hfunction
    exact notMem_blockPlaces_of_function hp hc hfunction hbelow

end Places

section Definitions

variable {t : SyntaxTree}

theorem map_scopeDefinitions (t : SyntaxTree) :
    (inOrder (scopeDefinitions t)).map (fun p => (t.at? p).map undecorated) =
      (scopeBelow t).definitions.map some := by
  induction t using SyntaxTree.induction with
  | h t ih =>
    rw [scopeBelow_eq, (scopeOf_eq _).2, List.map_flatMap]
    apply map_inOrder_children (scopeDefinitions_subset t) (nil_notMem_scopeDefinitions t)
    intro i c hc
    rw [under_scopeDefinitions hc]
    split
    . simp [hc]
    . simpa [hc] using ih c (List.mem_of_getElem? hc)

theorem map_within_bodyPlaces (S : SyntaxTree → Finset Place) (t : SyntaxTree) :
    (inOrder (within S t (bodyPlaces t))).map t.at? =
      ((undecorated t).child? "body").elim [] fun b => (inOrder (S b)).map b.at? := by
  rw [child?_eq]
  unfold bodyPlaces
  cases h : bodyPlaces.part? (undecorated t) "body" with
  | none => simp [within]
  | some i =>
    obtain ⟨b, hb⟩ := exists_child_of_part? h
    have hat : t.at? (bodyPlaces.undecoratedPlace t ++ [i]) = some b := by
      simp [at?_append, at?_undecoratedPlace, hb]
    have hwithin : within S t {bodyPlaces.undecoratedPlace t ++ [i]} =
        (S b).image (bodyPlaces.undecoratedPlace t ++ [i] ++ ·) := by
      simp [within, hat]
    rw [Option.elim_some, hwithin, inOrder_image_append, List.map_map]
    simp [hb, Function.comp_def, at?_append, at?_undecoratedPlace]

theorem map_methodPlaces (hclass : (undecorated t).kind = "class_definition") :
    (inOrder (methodPlaces t)).map (fun p => (t.at? p).map undecorated) =
      (methodsOf (undecorated t)).map fun m => some m.1 := by
  have hfilter : (inOrder (methodPlaces t)).map (fun p => (t.at? p).map undecorated) =
      (((inOrder (within scopeDefinitions t (bodyPlaces t))).map t.at?).map
        (Option.map undecorated)).filter (·.any (·.kind == "function_definition")) := by
    rw [methodPlaces, if_pos (beq_iff_eq.mpr hclass), inOrder_filter]
    simp [List.filter_map, Function.comp_def, Option.any_map]
  rw [hfilter, map_within_bodyPlaces, methodsOf, bodyScope_eq]
  cases (undecorated t).child? "body" with
  | none => rfl
  | some b =>
    have hdefinitions := map_scopeDefinitions b
    simp only [Option.elim_some, List.map_map, Function.comp_def] at hdefinitions ⊢
    rw [hdefinitions, List.filter_map]
    rfl

variable {nameOf : SyntaxTree → String}

theorem isOf_function {kind : BlockKind} (hkind : kind ≠ .classDef) (hdef : defines t = true)
    (hclass : (undecorated t).kind ≠ "class_definition") :
    (⟨nameOf (undecorated t), kind, functionComplexity (undecorated t)⟩ : Block).IsOf nameOf t where
  defines := hdef
  name_eq := rfl
  kind_eq_iff := by simp [hkind, hclass]
  complexity_eq _ := by rw [sum_ownNodes, functionComplexity]

theorem isOf_class {complexity : Nat} (hclass : (undecorated t).kind = "class_definition") :
    (⟨nameOf (undecorated t), .classDef, complexity⟩ : Block).IsOf nameOf t where
  defines := by simp [defines, isDefinition, hclass]
  name_eq := rfl
  kind_eq_iff := by simp [hclass]
  complexity_eq h := absurd rfl h

def Block.StandsAt (b : Block) (nameOf : SyntaxTree → String) (root : SyntaxTree) (p : Place) :
    Prop :=
  ∃ t, root.at? p = some t ∧ b.IsOf nameOf t ∧ (b.kind = .method ↔ p ∈ moduleMethods root)

theorem forall₂_definitionBlocks {root : SyntaxTree} {p : Place} (hp : p ∈ scopeDefinitions root)
    (ht : root.at? p = some t) (hdef : defines t = true) :
    List.Forall₂ (fun q b => b.StandsAt nameOf root q)
      (p :: (inOrder (methodPlaces t)).map (p ++ ·))
      (definitionBlocks nameOf (undecorated t)).1 := by
  have houter := notMem_moduleMethods hp
  unfold definitionBlocks
  split
  . next hclass =>
    rw [beq_iff_eq] at hclass
    have hmethods := forall₂_of_map_eq (map_methodPlaces hclass)
    refine .cons ⟨t, ht, isOf_class hclass, by simp [houter]⟩ ?_
    rw [List.forall₂_map_left_iff, List.forall₂_map_right_iff]
    refine hmethods.imp ?_
    rintro q ⟨d, score⟩ ⟨hq, hd, hat⟩
    obtain ⟨c, hc, rfl⟩ := Option.map_eq_some_iff.mp hat
    rw [mem_inOrder] at hq
    obtain ⟨d, hmethod, heq⟩ := List.mem_map.mp hd
    obtain ⟨rfl, rfl⟩ := Prod.mk.inj heq
    have hkind := beq_iff_eq.mp (List.mem_filter.mp hmethod).2
    refine ⟨c, by simp [at?_append, ht, hc], isOf_function (by simp) ?_ (by simp [hkind]), ?_⟩
    . simp [defines, isDefinition, hkind]
    . simpa using mem_moduleMethods.mpr ⟨p, hp, t, ht, q, hq, rfl⟩
  . next hclass =>
    have hnone : methodPlaces t = ∅ := by rw [methodPlaces, if_neg hclass]
    rw [hnone, inOrder_empty]
    exact .cons ⟨t, ht, isOf_function (by simp) hdef (by simpa using hclass), by simp [houter]⟩ .nil

theorem forall₂_blocks (nameOf : SyntaxTree → String) (root : SyntaxTree) :
    List.Forall₂ (fun p b => b.StandsAt nameOf root p) (blockPlaces root)
      (complexityOf nameOf root).blocks := by
  have hdefinitions := forall₂_of_map_eq (map_scopeDefinitions root)
  simp only [blockPlaces, complexityOf, List.flatMap_map]
  refine List.rel_flatMap hdefinitions ?_
  rintro p d ⟨hp, _, hat⟩
  obtain ⟨t, ht, rfl⟩ := Option.map_eq_some_iff.mp hat
  rw [mem_inOrder] at hp
  obtain ⟨_, ht', hdef⟩ := exists_defines hp
  obtain rfl := Option.some.inj (ht.symm.trans ht')
  dsimp only
  rw [ht, Option.elim_some]
  exact forall₂_definitionBlocks hp ht hdef

end Definitions

structure Complexity.GivesOwnScores (c : Complexity) (nameOf : SyntaxTree → String)
    (root : SyntaxTree) : Prop where
  blocks_stand : List.Forall₂ (fun p b => b.StandsAt nameOf root p) (blockPlaces root) c.blocks
  ordered : (blockPlaces root).Pairwise (· < ·)
  nodes_ordered : ((blockPlaces root).map root.at?).Sublist (root.nodes.map some)
  mem_iff : ∀ p, p ∈ blockPlaces root ↔ p ∈ scopeDefinitions root ∨ p ∈ moduleMethods root
  none_in_function : ∀ p ∈ blockPlaces root, ∀ t, root.at? p = some t →
    (undecorated t).kind = "function_definition" → ∀ q, q ≠ [] → p ++ q ∉ blockPlaces root
  none_in_class_in_class : ∀ p ∈ blockPlaces root, ∀ t, root.at? p = some t →
    ∀ b ∈ bodyPlaces t, ∀ q, q ≠ [] → ∀ u, t.at? (b ++ q) = some u →
      (undecorated u).kind = "class_definition" → ∀ r, p ++ (b ++ q ++ r) ∉ blockPlaces root
  complexity_congr : ∀ p b, (p, b) ∈ (blockPlaces root).zip c.blocks → b.kind ≠ .classDef →
    ∀ (nameOf' : SyntaxTree → String) (root' : SyntaxTree) (p' : Place) (b' : Block),
      (p', b') ∈ (blockPlaces root').zip (complexityOf nameOf' root').blocks →
      b'.kind ≠ .classDef → (root.at? p).map ownCode = (root'.at? p').map ownCode →
      b.complexity = b'.complexity

theorem complexityOf_givesOwnScores (nameOf : SyntaxTree → String) (root : SyntaxTree) :
    (complexityOf nameOf root).GivesOwnScores nameOf root := by
  constructor
  case blocks_stand => exact forall₂_blocks nameOf root
  case ordered => exact blockPlaces_pairwise root
  case nodes_ordered =>
    rw [← map_at?_inOrder]
    exact (sublist_inOrder (blockPlaces_pairwise root) (blockPlaces_subset root)).map _
  case mem_iff =>
    intro p
    exact mem_blockPlaces
  case none_in_function =>
    intro p hp t ht hfunction q hq
    exact notMem_blockPlaces_of_function hp ht hfunction hq
  case none_in_class_in_class =>
    intro p hp t ht b hb q hq u hu hclass r
    exact notMem_blockPlaces_of_class hp ht hb hq hu hclass r
  case complexity_congr =>
    intro p b hb hkind nameOf' root' p' b' hb' hkind' hcode
    obtain ⟨t, ht, hblock, _⟩ := (List.forall₂_iff_zip.mp (forall₂_blocks nameOf root)).2 hb
    obtain ⟨t', ht', hblock', _⟩ := (List.forall₂_iff_zip.mp (forall₂_blocks nameOf' root')).2 hb'
    rw [ht, ht', Option.map_some, Option.map_some, Option.some.injEq] at hcode
    rw [hblock.complexity_eq_functionComplexity hkind,
      hblock'.complexity_eq_functionComplexity hkind']
    exact functionComplexity_congr hcode

def bare (kind : String) (field : Option String) (children : List SyntaxTree) : SyntaxTree :=
  .node { (default : NodeInfo) with kind, field } children

def wrapped (inside : List SyntaxTree) : SyntaxTree :=
  bare "module" none [bare "decorated_definition" none
    [bare "decorator" none inside,
      bare "function_definition" "definition"
        [bare "parameters" "parameters" inside,
          bare "block" "body"
            [bare "if_statement" none [],
              bare "function_definition" none [bare "block" "body" inside]]]]]
where
  choice : SyntaxTree := bare "conditional_expression" none []

theorem complexityOf_givesOwnScores_wrapped :
    ∃ b b', (blockPlaces (wrapped [wrapped.choice])).zip
        (complexityOf kind (wrapped [wrapped.choice])).blocks = [([0], b)] ∧
      (blockPlaces (wrapped [])).zip (complexityOf kind (wrapped [])).blocks = [([0], b')] ∧
      b.complexity = b'.complexity ∧ [0] ++ [1, 1, 1] ∉ blockPlaces (wrapped [wrapped.choice]) := by
  have h := complexityOf_givesOwnScores kind (wrapped [wrapped.choice])
  have hb : (blockPlaces (wrapped [wrapped.choice])).zip
      (complexityOf kind (wrapped [wrapped.choice])).blocks =
        [([0], ⟨"function_definition", .function, 2⟩)] := by decide +kernel
  have hb' : (blockPlaces (wrapped [])).zip (complexityOf kind (wrapped [])).blocks =
      [([0], ⟨"function_definition", .function, 2⟩)] := by decide +kernel
  have hplace : [0] ∈ blockPlaces (wrapped [wrapped.choice]) := by decide +kernel
  refine ⟨_, _, hb, hb', ?_, ?_⟩
  . exact h.complexity_congr [0] _ (by simp [hb]) (by decide) kind (wrapped []) [0] _
      (by simp [hb']) (by decide) rfl
  . exact h.none_in_function [0] hplace _ rfl rfl [1, 1, 1] (by simp)

end CodeAppraisal.Metrics
