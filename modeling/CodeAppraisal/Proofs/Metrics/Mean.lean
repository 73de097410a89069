import CodeAppraisal.Proofs.ExactQuantity
import CodeAppraisal.Proofs.Metrics.Blocks
import CodeAppraisal.Proofs.Metrics.Bounds

/-!
This module compares the figures of a report on complexity: the scores of blocks, that of a class
with those of its methods, their mean, the highest, and the total.
-/
namespace CodeAppraisal.Metrics

open CodeAppraisal.Parsing SyntaxTree Quantity

section Scores

variable {nameOf : SyntaxTree → String} {t root : SyntaxTree} {b : Block}

theorem one_le_classComplexity (t : SyntaxTree) : 1 ≤ classComplexity t := by
  have hlength := length_methodsOf_lt t
  unfold classComplexity
  dsimp only
  split
  . omega
  . have : 1 ≤ classTotal t / (methodsOf t).length := (Nat.one_le_div_iff (by omega)).mpr (by omega)
    omega

theorem sum_methodsOf_lt (h : methodsOf t ≠ []) :
    ((methodsOf t).map (·.2)).sum < (methodsOf t).length * classComplexity t := by
  have hlength : (methodsOf t).length ≠ 0 := by simpa using h
  have htotal := sum_lt_classTotal t
  have hdiv := Nat.div_add_mod (classTotal t) (methodsOf t).length
  have hmod : classTotal t % (methodsOf t).length < (methodsOf t).length :=
    Nat.mod_lt _ (by omega)
  unfold classComplexity
  dsimp only
  rw [if_neg hlength]
  split
  . rw [Nat.mul_add, Nat.mul_one]
    omega
  . have : (methodsOf t).length = 1 := by omega
    simp only [this] at *
    omega

theorem complexity_of_mem_definitionBlocks (h : b ∈ (definitionBlocks nameOf t).1) :
    1 ≤ b.complexity ∧ b.complexity ≤ definitionTotal t := by
  unfold definitionBlocks at h
  unfold definitionTotal
  split at h
  . next hclass =>
    rw [if_pos hclass]
    cases List.mem_cons.mp h with
    | inl h =>
      subst h
      exact ⟨one_le_classComplexity t, classComplexity_le t⟩
    | inr h =>
      obtain ⟨m, hm, rfl⟩ := List.mem_map.mp h
      have hle := List.le_sum_of_mem (List.mem_map_of_mem (f := (·.2)) hm)
      obtain ⟨d, _, rfl⟩ := List.mem_map.mp hm
      rw [classTotal, addUp_eq_sum]
      dsimp only at hle ⊢
      rw [functionComplexity] at hle ⊢
      omega
  . next hclass =>
    rw [if_neg hclass]
    obtain rfl := List.mem_singleton.mp h
    dsimp only
    rw [functionComplexity]
    omega

theorem complexity_of_mem_blocks (h : b ∈ (complexityOf nameOf root).blocks) :
    1 ≤ b.complexity ∧ b.complexity ≤ (complexityOf nameOf root).total := by
  simp only [complexityOf, List.mem_flatMap, List.mem_map] at h
  obtain ⟨_, ⟨d, hd, rfl⟩, h⟩ := h
  have hb := complexity_of_mem_definitionBlocks h
  have hle := List.le_sum_of_mem (List.mem_map_of_mem (f := definitionTotal) hd)
  rw [total_eq_sum]
  omega

end Scores

namespace Complexity

variable {c : Complexity}

theorem max_le_iff {n : Nat} : c.max ≤ n ↔ ∀ b ∈ c.blocks, b.complexity ≤ n := by
  unfold Complexity.max
  rw [List.foldl_eq_foldr]
  induction c.blocks with
  | nil => simp
  | cons b bs ih => simp [ih]

theorem sum_eq (c : Complexity) : c.sum = (c.blocks.map (·.complexity)).sum :=
  addUp_eq_sum _

theorem length_le_sum (h : ∀ b ∈ c.blocks, 1 ≤ b.complexity) : c.blocks.length ≤ c.sum := by
  rw [sum_eq]
  simpa using List.card_nsmul_le_sum (c.blocks.map (·.complexity)) 1 (by simpa using h)

theorem sum_le_length_mul_max (c : Complexity) : c.sum ≤ c.blocks.length * c.max := by
  rw [sum_eq]
  have hmax := max_le_iff.mp (le_refl c.max)
  simpa using List.sum_le_card_nsmul (c.blocks.map (·.complexity)) c.max (by simpa using hmax)

variable {K : Type} [Field K] [LinearOrder K] [ElementaryFunctions K]

theorem average_of_blocks (h : c.blocks ≠ []) : (c.average : K) = c.sum / c.blocks.length := by
  simp [average, h]

variable [IsStrictOrderedRing K]

theorem average_of_no_blocks (h : c.blocks = []) : (c.average : K) = 0 := by
  simp [average, h]
  norm_num

theorem average_nonneg (c : Complexity) : 0 ≤ (c.average : K) := by
  by_cases h : c.blocks = []
  . rw [average_of_no_blocks h]
  . rw [average_of_blocks h]
    positivity

theorem one_le_average (hne : c.blocks ≠ []) (h : ∀ b ∈ c.blocks, 1 ≤ b.complexity) :
    1 ≤ (c.average : K) := by
  have hpos : (0 : K) < c.blocks.length := by
    exact_mod_cast List.length_pos_of_ne_nil hne
  rw [average_of_blocks hne, one_le_div hpos]
  exact_mod_cast length_le_sum h

theorem average_le_max (h : c.blocks ≠ []) : (c.average : K) ≤ c.max := by
  have hpos : (0 : K) < c.blocks.length := by
    exact_mod_cast List.length_pos_of_ne_nil h
  rw [average_of_blocks h, div_le_iff₀ hpos, mul_comm]
  exact_mod_cast sum_le_length_mul_max c

end Complexity

section Classes

variable {nameOf : SyntaxTree → String} {root : SyntaxTree}

theorem exists_of_flatMap_eq {β γ : Type} {xs : List β} {f : β → List γ} {before rest : List γ}
    {y : γ} (h : xs.flatMap f = before ++ y :: rest) :
    ∃ xs₁ x xs₂ front back, xs = xs₁ ++ x :: xs₂ ∧ f x = front ++ y :: back ∧
      before = xs₁.flatMap f ++ front ∧ rest = back ++ xs₂.flatMap f := by
  induction xs generalizing before with
  | nil => simp at h
  | cons x xs ih =>
    rw [List.flatMap_cons, List.append_eq_append_iff] at h
    obtain ⟨later, rfl, hxs⟩ | ⟨front, hx, hrest⟩ := h
    . obtain ⟨xs₁, x', xs₂, front, back, rfl, hx', rfl, rfl⟩ := ih hxs
      exact ⟨x :: xs₁, x', xs₂, front, back, by simp, hx', by simp, rfl⟩
    . cases front with
      | nil =>
        have hxs : xs.flatMap f = [] ++ y :: rest := hrest.symm
        obtain ⟨xs₁, x', xs₂, front, back, rfl, hx', hnil, rfl⟩ := ih hxs
        rw [List.append_nil] at hx
        exact ⟨x :: xs₁, x', xs₂, front, back, by simp, hx', by simp [hx, ← hnil], rfl⟩
      | cons z back =>
        obtain ⟨rfl, rfl⟩ := List.cons_eq_cons.mp hrest
        exact ⟨[], x, xs, before, back, rfl, hx, by simp, rfl⟩

def blocksAt (nameOf : SyntaxTree → String) (root : SyntaxTree) (p : Place) : List Block :=
  (root.at? p).elim [] fun t => (definitionBlocks nameOf (undecorated t)).1

theorem blocks_eq_flatMap (nameOf : SyntaxTree → String) (root : SyntaxTree) :
    (complexityOf nameOf root).blocks =
      (inOrder (scopeDefinitions root)).flatMap (blocksAt nameOf root) := by
  have hdefinitions := congrArg
    (List.flatMap fun d => d.elim [] fun d => (definitionBlocks nameOf d).1)
    (map_scopeDefinitions root)
  simp only [List.flatMap_map, Option.elim_map] at hdefinitions
  simp only [complexityOf, List.flatMap_map]
  exact hdefinitions.symm

theorem blocksAt_eq {p : Place} {t : SyntaxTree} (h : root.at? p = some t) :
    blocksAt nameOf root p = (definitionBlocks nameOf (undecorated t)).1 := by
  rw [blocksAt, h, Option.elim_some]

theorem eq_of_definitionBlocks {t : SyntaxTree} {b : Block} {front back : List Block}
    (h : (definitionBlocks nameOf t).1 = front ++ b :: back) (hb : b.kind = .classDef) :
    t.kind = "class_definition" ∧ front = [] ∧ b.complexity = classComplexity t ∧
      back = (methodsOf t).map fun m => ⟨nameOf m.1, .method, m.2⟩ := by
  unfold definitionBlocks at h
  split at h
  . next hclass =>
    cases front with
    | nil =>
      obtain ⟨rfl, rfl⟩ := List.cons_eq_cons.mp h
      exact ⟨beq_iff_eq.mp hclass, rfl, rfl, rfl⟩
    | cons x front =>
      have hmem : b ∈ (methodsOf t).map fun m => (⟨nameOf m.1, .method, m.2⟩ : Block) := by
        rw [(List.cons_eq_cons.mp h).2]
        simp
      obtain ⟨m, _, rfl⟩ := List.mem_map.mp hmem
      cases hb
  . cases front with
    | nil =>
      obtain ⟨rfl, _⟩ := List.cons_eq_cons.mp h
      cases hb
    | cons x front =>
      have := (List.cons_eq_cons.mp h).2
      simp at this

theorem takeWhile_method_blocksAt (nameOf : SyntaxTree → String) {ps : List Place}
    (h : ∀ p ∈ ps, p ∈ scopeDefinitions root) :
    (ps.flatMap (blocksAt nameOf root)).takeWhile (·.kind == .method) = [] := by
  cases ps with
  | nil => rfl
  | cons p ps =>
    obtain ⟨t, ht, _⟩ := exists_defines (h p List.mem_cons_self)
    rw [List.flatMap_cons, blocksAt_eq ht]
    unfold definitionBlocks
    split <;> rfl

theorem length_blocksAt (nameOf : SyntaxTree → String) {ps : List Place}
    (h : ∀ p ∈ ps, p ∈ scopeDefinitions root) :
    (ps.flatMap (blocksAt nameOf root)).length =
      (ps.flatMap fun p =>
        p :: (inOrder ((root.at? p).elim ∅ methodPlaces)).map (p ++ ·)).length := by
  rw [List.length_flatMap, List.length_flatMap]
  congr 1
  apply List.map_congr_left
  intro p hp
  obtain ⟨t, ht, hdef⟩ := exists_defines (h p hp)
  rw [blocksAt_eq ht, ht]
  exact (forall₂_definitionBlocks (h p hp) ht hdef).length_eq.symm

theorem exists_class_of_split {before rest : List Block} {b : Block}
    (h : (complexityOf nameOf root).blocks = before ++ b :: rest) (hb : b.kind = .classDef) :
    ∃ p t, (blockPlaces root)[before.length]? = some p ∧ root.at? p = some t ∧
      (undecorated t).kind = "class_definition" ∧
      b.complexity = classComplexity (undecorated t) ∧
      (rest.takeWhile (·.kind == .method)).map (·.complexity) =
        (methodsOf (undecorated t)).map (·.2) := by
  rw [blocks_eq_flatMap] at h
  obtain ⟨ps₁, p, ps₂, front, back, hps, hp, rfl, rfl⟩ := exists_of_flatMap_eq h
  have hmem : ∀ q ∈ ps₁ ++ p :: ps₂, q ∈ scopeDefinitions root := by
    intro q hq
    rwa [← hps, mem_inOrder] at hq
  obtain ⟨t, ht, _⟩ := exists_defines (hmem p (by simp))
  rw [blocksAt_eq ht] at hp
  obtain ⟨hclass, rfl, hcomplexity, rfl⟩ := eq_of_definitionBlocks hp hb
  refine ⟨p, t, ?_, ht, hclass, hcomplexity, ?_⟩
  . have hlength := length_blocksAt nameOf fun q hq =>
      hmem q (List.mem_append_left _ hq)
    rw [blockPlaces, hps, List.append_nil, hlength, List.flatMap_append, List.flatMap_cons]
    simp
  . have hnone := takeWhile_method_blocksAt nameOf fun q hq =>
      hmem q (List.mem_append_right _ (List.mem_cons_of_mem _ hq))
    have hmethods : ∀ m ∈ (methodsOf (undecorated t)).map
        fun m => (⟨nameOf m.1, .method, m.2⟩ : Block), (m.kind == .method) = true := by
      intro m hm
      obtain ⟨_, _, rfl⟩ := List.mem_map.mp hm
      rfl
    rw [List.takeWhile_append_of_pos hmethods, hnone]
    simp [Function.comp_def]

end Classes

section InProportion

variable (K : Type) [Field K] [LinearOrder K] [IsStrictOrderedRing K] [FloorRing K]
  [ElementaryFunctions K]

structure Complexity.InProportion (c : Complexity) (root : SyntaxTree) : Prop where
  one_le : ∀ b ∈ c.blocks, 1 ≤ b.complexity
  class_bounds : ∀ before b rest, c.blocks = before ++ b :: rest → b.kind = .classDef →
    ∃ p t, (blockPlaces root)[before.length]? = some p ∧ root.at? p = some t ∧
      let scores := (rest.takeWhile (·.kind == .method)).map (·.complexity)
      scores.length = (methodPlaces t).card ∧
        (scores ≠ [] → scores.sum < scores.length * b.complexity ∧
          b.complexity ≤ 1 + ∑ q ∈ ownNodes t, (t.at? q).elim 0 decisionPoints + scores.sum)
  one_le_average : c.blocks ≠ [] → 1 ≤ (c.average : K)
  average_le_max : c.blocks ≠ [] → (c.average : K) ≤ c.max
  max_le_total : c.max ≤ c.total
  round2_average : c.blocks ≠ [] →
    1 ≤ round2 (c.average : K) ∧ round2 (c.average : K) ≤ c.max
  of_no_blocks : c.blocks = [] → (c.average : K) = 0 ∧ round2 (c.average : K) = 0 ∧ c.max = 0

variable [LawfulRound K]

theorem complexityOf_inProportion (nameOf : SyntaxTree → String) (root : SyntaxTree) :
    (complexityOf nameOf root).InProportion K root := by
  have hpos : ∀ b ∈ (complexityOf nameOf root).blocks, 1 ≤ b.complexity :=
    fun b hb => (complexity_of_mem_blocks hb).1
  constructor
  case one_le => exact hpos
  case class_bounds =>
    intro before b rest hsplit hb
    obtain ⟨p, t, hp, ht, hclass, hcomplexity, hscores⟩ := exists_class_of_split hsplit hb
    refine ⟨p, t, hp, ht, ?_⟩
    intro scores
    have hcard := congrArg List.length (map_methodPlaces hclass)
    rw [List.length_map, List.length_map, length_inOrder] at hcard
    have hscores : scores = (methodsOf (undecorated t)).map (·.2) := hscores
    rw [hscores, hcomplexity, List.length_map]
    refine ⟨hcard.symm, ?_⟩
    intro hne
    have htotal := classComplexity_le (undecorated t)
    rw [classTotal, addUp_eq_sum, ← sum_ownNodes] at htotal
    exact ⟨sum_methodsOf_lt (by simpa using hne), htotal⟩
  case one_le_average =>
    intro hne
    exact Complexity.one_le_average hne hpos
  case average_le_max =>
    intro hne
    exact Complexity.average_le_max hne
  case max_le_total => exact Complexity.max_le_iff.mpr fun b hb => (complexity_of_mem_blocks hb).2
  case round2_average =>
    intro hne
    have hone := round2_monotone (Complexity.one_le_average (K := K) hne hpos)
    have hmax := round2_monotone (Complexity.average_le_max (K := K) hne)
    have hround := round2_intCast (K := K)
    rw [← Int.cast_one, hround] at hone
    rw [← Int.cast_natCast, hround] at hmax
    exact ⟨by simpa using hone, by simpa using hmax⟩
  case of_no_blocks =>
    intro hnil
    have hzero := Complexity.average_of_no_blocks (K := K) hnil
    have hround := round2_intCast (K := K) 0
    rw [Int.cast_zero] at hround
    refine ⟨hzero, by rw [hzero, hround], ?_⟩
    rw [Complexity.max, hnil]
    rfl

end InProportion

def pairClass : SyntaxTree :=
  bare "module" none [bare "class_definition" none [bare "block" "body"
    [bare "function_definition" none [],
      bare "function_definition" none
        [bare "block" "body" [bare "if_statement" none [], bare "if_statement" none []]]]]]

theorem complexityOf_inProportion_pairClass :
    ∃ b methods, (complexityOf kind pairClass).blocks = b :: methods ∧
      methods.map (·.complexity) = [1, 3] ∧ [1, 3].sum < 2 * b.complexity ∧
      1 ≤ round2 ((complexityOf kind pairClass).average : ℝ) ∧
      round2 ((complexityOf kind pairClass).average : ℝ) ≤ 3 := by
  have h := complexityOf_inProportion ℝ kind pairClass
  have hblocks : (complexityOf kind pairClass).blocks =
      [⟨"class_definition", .classDef, 3⟩, ⟨"function_definition", .method, 1⟩,
        ⟨"function_definition", .method, 3⟩] := by decide +kernel
  have hmax : (complexityOf kind pairClass).max = 3 := by decide +kernel
  obtain ⟨_, _, _, _, _, hbounds⟩ := h.class_bounds [] _ _ hblocks rfl
  have hround := h.round2_average (by simp [hblocks])
  rw [hmax] at hround
  exact ⟨_, _, hblocks, rfl, (hbounds (by simp)).1, hround.1, by exact_mod_cast hround.2⟩

end CodeAppraisal.Metrics
