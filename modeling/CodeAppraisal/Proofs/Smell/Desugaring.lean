import CodeAppraisal.Proofs.Parsing.Walk
import CodeAppraisal.Smell.DeepNesting

/-!
This module shows that statements are nested as deep as they are once each `elif` is written as an
`if` within an `else`. The depth itself is found without writing anything, by counting the branches
of a chain.
-/
namespace CodeAppraisal

open Parsing SyntaxTree

def asIf (t : SyntaxTree) : SyntaxTree :=
  if t.kind == "elif" then .node { t.info with kind := "if" } t.children else t

mutual

/-- A tree with each `elif` as an `if` in the `else` of the branch before it. What goes on with a
chain behind an `elif` goes on with that `if`, so a last `else` is one of the last `if`. -/
def desugar : SyntaxTree → SyntaxTree
  | .node i cs => .node i (desugarBelow (i.kind == "if_statement") cs)

def desugarElif (further : List SyntaxTree) : SyntaxTree → SyntaxTree
  | .node i cs =>
    .node { i with kind := "else_clause" }
      [.node { i with kind := "if_statement", field := none }
        ((desugarBelow false cs).map asIf ++ further)]

def desugarBelow (inIf : Bool) : List SyntaxTree → List SyntaxTree
  | [] => []
  | c :: cs =>
    if c.kind == "elif_clause" then
      desugarElif (branchesOf inIf cs) c :: othersOf inIf cs
    else desugar c :: desugarBelow inIf cs

/-- What goes on with a chain behind an `elif`. An `else` does so in an `if` only; loops and `try`
have one of their own. -/
def branchesOf (inIf : Bool) : List SyntaxTree → List SyntaxTree
  | [] => []
  | c :: cs =>
    if c.kind == "elif_clause" then [desugarElif (branchesOf inIf cs) c]
    else if c.kind == "else_clause" && inIf then desugar c :: branchesOf inIf cs
    else branchesOf inIf cs

def othersOf (inIf : Bool) : List SyntaxTree → List SyntaxTree
  | [] => []
  | c :: cs =>
    if c.kind == "elif_clause" || (c.kind == "else_clause" && inIf) then othersOf inIf cs
    else desugar c :: othersOf inIf cs

end

def statementsAround (t : SyntaxTree) (p : Place) : Nat :=
  p.inits.countP fun q => (t.at? q).any nests

def statementsAbove (t : SyntaxTree) (p : Place) : Nat :=
  p.inits.dropLast.countP fun q => (t.at? q).any nests

def deepest (t : SyntaxTree) : Nat := t.places.sup (statementsAround t)

def deepestOf (cs : List SyntaxTree) : Nat := (cs.map deepest).foldr max 0

section Deepest

variable {t c : SyntaxTree} {i : Nat} {p : Place} {cs : List SyntaxTree} {n : Nat}

theorem statementsAround_nil (t : SyntaxTree) : statementsAround t [] = (nests t).toNat := by
  rw [statementsAround, List.inits, List.countP_singleton, at?_nil, Option.any_some]
  cases nests t <;> rfl

theorem statementsAround_cons (h : t.children[i]? = some c) (p : Place) :
    statementsAround t (i :: p) = (nests t).toNat + statementsAround c p := by
  have hbelow : ∀ q, t.at? (i :: q) = c.at? q := by
    intro q
    rw [at?_cons, h, Option.bind_some]
  rw [statementsAround, List.inits, List.countP_cons, List.countP_map, at?_nil, Option.any_some,
    Nat.add_comm]
  simp only [Function.comp_def, hbelow]
  cases nests t <;> rfl

@[simp]
theorem deepestOf_nil : deepestOf [] = 0 := rfl

theorem deepestOf_cons (c : SyntaxTree) (cs : List SyntaxTree) :
    deepestOf (c :: cs) = max (deepest c) (deepestOf cs) := rfl

theorem deepestOf_append (cs ds : List SyntaxTree) :
    deepestOf (cs ++ ds) = max (deepestOf cs) (deepestOf ds) := by
  induction cs with
  | nil => simp [deepestOf]
  | cons c cs ih => rw [List.cons_append, deepestOf_cons, deepestOf_cons, ih, Nat.max_assoc]

theorem deepestOf_le : deepestOf cs ≤ n ↔ ∀ c ∈ cs, deepest c ≤ n := by
  induction cs with
  | nil => simp [deepestOf]
  | cons c cs ih => simp [deepestOf_cons, ih]

theorem deepest_eq (t : SyntaxTree) : deepest t = (nests t).toNat + deepestOf t.children := by
  apply Nat.le_antisymm
  . apply Finset.sup_le
    intro p hp
    cases p with
    | nil =>
      rw [statementsAround_nil]
      exact Nat.le_add_right _ _
    | cons i p =>
      obtain ⟨c, hc, hp⟩ := cons_mem_places.mp hp
      rw [statementsAround_cons hc]
      have hle : statementsAround c p ≤ deepest c := Finset.le_sup hp
      have := deepestOf_le.mp le_rfl c (List.mem_of_getElem? hc)
      omega
  . have hroot : (nests t).toNat ≤ deepest t := by
      rw [← statementsAround_nil]
      exact Finset.le_sup (nil_mem_places t)
    have hbelow : deepestOf t.children ≤ deepest t - (nests t).toNat := by
      rw [deepestOf_le]
      intro c hc
      obtain ⟨i, hi⟩ := List.mem_iff_getElem?.mp hc
      apply Finset.sup_le
      intro p hp
      have hle : statementsAround t (i :: p) ≤ deepest t :=
        Finset.le_sup (cons_mem_places.mpr ⟨c, hi, hp⟩)
      rw [statementsAround_cons hi] at hle
      omega
    omega

theorem deepest_eq_zero_iff : deepest t = 0 ↔ ∀ u ∈ t.walk, nests u = false := by
  induction t using SyntaxTree.induction with
  | h t ih =>
    have hroot : (nests t).toNat = 0 ↔ nests t = false := by cases nests t <;> simp
    have hchildren : deepestOf t.children = 0 ↔
        ∀ c ∈ t.children, ∀ u ∈ c.walk, nests u = false := by
      rw [← Nat.le_zero, deepestOf_le]
      apply forall₂_congr
      intro c hc
      rw [Nat.le_zero, ih c hc]
    rw [deepest_eq, Nat.add_eq_zero_iff, hroot, hchildren, forall_mem_walk]

theorem statementsAbove_append (t : SyntaxTree) (p : Place) (i : Nat) :
    statementsAbove t (p ++ [i]) = statementsAround t p := by
  rw [statementsAbove, List.inits_append, statementsAround]
  simp [List.inits]

theorem statementsAround_eq {u : SyntaxTree} (h : t.at? p = some u) :
    statementsAround t p = statementsAbove t p + (nests u).toNat := by
  have hinits : p.inits = p.inits.dropLast ++ [p] := by
    obtain rfl | ⟨q, i, rfl⟩ := p.eq_nil_or_concat
    . rfl
    . simp [List.inits_append, List.inits]
  unfold statementsAround statementsAbove
  rw [hinits, List.countP_append, List.countP_singleton, h, Option.any_some, List.dropLast_concat]
  cases nests u <;> rfl

theorem exists_statementsAround_le (h : ∀ u ∈ t.walk, nests u = true → u.children ≠ [])
    (hp : p ∈ t.places) : ∃ q ∈ t.places, statementsAround t p ≤ statementsAbove t q := by
  obtain ⟨u, hu⟩ := exists_node hp
  cases hnests : nests u with
  | true =>
    obtain ⟨c, cs, hcs⟩ := List.exists_cons_of_ne_nil (h u (mem_walk_of_at? hu) hnests)
    refine ⟨p ++ [0], ?_, (statementsAbove_append t p 0).ge⟩
    rw [mem_places, at?_append, hu, Option.bind_some, at?_cons, hcs]
    rfl
  | false => exact ⟨p, hp, by simp [statementsAround_eq hu, hnests]⟩

theorem deepest_eq_sup_statementsAbove (h : ∀ u ∈ t.walk, nests u = true → u.children ≠ []) :
    deepest t = t.places.sup (statementsAbove t) := by
  apply Nat.le_antisymm
  . apply Finset.sup_le
    intro p hp
    obtain ⟨q, hq, hle⟩ := exists_statementsAround_le h hp
    exact hle.trans (Finset.le_sup hq)
  . apply Finset.sup_mono_fun
    intro p hp
    obtain ⟨u, hu⟩ := exists_node hp
    rw [statementsAround_eq hu]
    exact Nat.le_add_right _ _

end Deepest

section Desugar

variable {t c : SyntaxTree} {cs : List SyntaxTree} {inIf : Bool}

theorem desugar_eq (t : SyntaxTree) :
    desugar t = .node t.info (desugarBelow (t.kind == "if_statement") t.children) := by
  cases t
  rfl

theorem desugarElif_eq (further : List SyntaxTree) (t : SyntaxTree) :
    desugarElif further t = .node { t.info with kind := "else_clause" }
      [.node { t.info with kind := "if_statement", field := none }
        ((desugarBelow false t.children).map asIf ++ further)] := by
  cases t
  rfl

theorem children_desugar (t : SyntaxTree) :
    (desugar t).children = desugarBelow (t.kind == "if_statement") t.children := by
  rw [desugar_eq, children]

theorem kind_desugar (t : SyntaxTree) : (desugar t).kind = t.kind := by
  rw [desugar_eq, kind, info, kind]

theorem kind_desugarElif (further : List SyntaxTree) (t : SyntaxTree) :
    (desugarElif further t).kind = "else_clause" := by
  rw [desugarElif_eq, kind, info]

theorem isAsync_desugar (t : SyntaxTree) : (desugar t).isAsync = t.isAsync := by
  unfold isAsync
  rw [children_desugar]
  cases t.children with
  | nil => rfl
  | cons c cs =>
    rw [desugarBelow]
    by_cases helif : c.kind == "elif_clause"
    . rw [if_pos helif]
      dsimp only
      rw [kind_desugarElif, beq_iff_eq.mp helif]
      rfl
    . rw [if_neg helif]
      dsimp only
      rw [kind_desugar]

theorem nests_desugar (t : SyntaxTree) : nests (desugar t) = nests t := by
  unfold nests
  rw [isAsync_desugar, kind_desugar]

theorem nests_asIf (t : SyntaxTree) : nests (asIf t) = nests t := by
  unfold asIf
  split
  . next helif =>
    unfold nests
    rw [beq_iff_eq.mp helif]
    rfl
  . rfl

theorem children_asIf (t : SyntaxTree) : (asIf t).children = t.children := by
  unfold asIf
  split <;> rfl

theorem deepest_asIf (t : SyntaxTree) : deepest (asIf t) = deepest t := by
  rw [deepest_eq, nests_asIf, children_asIf, ← deepest_eq]

theorem deepestOf_map_asIf (cs : List SyntaxTree) : deepestOf (cs.map asIf) = deepestOf cs := by
  induction cs with
  | nil => rfl
  | cons c cs ih => rw [List.map_cons, deepestOf_cons, deepestOf_cons, deepest_asIf, ih]

theorem deepest_desugarElif (further : List SyntaxTree) (h : c.kind = "elif_clause") :
    deepest (desugarElif further c) = 1 + max (deepest (desugar c)) (deepestOf further) := by
  have hbelow : deepest (desugar c) = deepestOf (desugarBelow false c.children) := by
    rw [deepest_eq, children_desugar, nests_desugar, h]
    simp [nests, h]
  rw [hbelow, desugarElif_eq, deepest_eq, children, deepestOf_cons, deepest_eq, children,
    deepestOf_append, deepestOf_map_asIf]
  simp [nests, kind, info]

theorem nestingBelow_chain (inIf : Bool) (depth elifs : Nat)
    (h : ∀ c ∈ cs, ∀ depth, nestingFrom depth c = depth + deepest (desugar c)) :
    max (depth + elifs) (nestingBelow inIf depth elifs cs) =
      max (depth + deepestOf (othersOf inIf cs))
        (depth + elifs + deepestOf (branchesOf inIf cs)) := by
  induction cs generalizing elifs with
  | nil => simp [nestingBelow, othersOf, branchesOf]
  | cons c cs ih =>
    rw [List.forall_mem_cons] at h
    rw [nestingBelow, othersOf, branchesOf, h.1]
    cases helif : c.kind == "elif_clause" with
    | true =>
      have hc := deepest_desugarElif (branchesOf inIf cs) (beq_iff_eq.mp helif)
      have hcs := ih (elifs + 1) h.2
      simp only [Bool.true_or, ↓reduceIte, deepestOf_cons, deepestOf_nil, hc]
      omega
    | false =>
      have hcs := ih elifs h.2
      cases helse : c.kind == "else_clause" && inIf with
      | true =>
        simp only [Bool.or_true, ↓reduceIte, Bool.false_eq_true, deepestOf_cons]
        omega
      | false =>
        simp only [Bool.or_false, ↓reduceIte, Bool.false_eq_true, deepestOf_cons]
        omega

theorem nestingBelow_eq (depth : Nat)
    (h : ∀ c ∈ cs, ∀ depth, nestingFrom depth c = depth + deepest (desugar c)) :
    nestingBelow inIf depth 0 cs = depth + deepestOf (desugarBelow inIf cs) := by
  induction cs with
  | nil => simp [nestingBelow, desugarBelow]
  | cons c cs ih =>
    rw [List.forall_mem_cons] at h
    rw [nestingBelow, desugarBelow, h.1]
    cases helif : c.kind == "elif_clause" with
    | true =>
      have hc := deepest_desugarElif (branchesOf inIf cs) (beq_iff_eq.mp helif)
      have hcs := nestingBelow_chain inIf depth 1 h.2
      simp only [Bool.true_or, ↓reduceIte, Nat.zero_add, deepestOf_cons, hc]
      omega
    | false =>
      have hcs := ih h.2
      simp only [Bool.false_or, Nat.add_zero, ite_self, ↓reduceIte, Bool.false_eq_true,
        deepestOf_cons]
      omega

theorem nestingFrom_eq (depth : Nat) (t : SyntaxTree) : nestingFrom depth t =
    nestingBelow (t.kind == "if_statement") (depth + (nests t).toNat) 0 t.children := by
  cases t with
  | node i cs =>
    rw [nestingFrom]
    cases nests (.node i cs) <;> rfl

theorem nestingFrom_eq_deepest (depth : Nat) (t : SyntaxTree) :
    nestingFrom depth t = depth + deepest (desugar t) := by
  induction t using SyntaxTree.induction generalizing depth with
  | h t ih =>
    rw [nestingFrom_eq, nestingBelow_eq _ ih, deepest_eq, nests_desugar, children_desugar,
      Nat.add_assoc]

end Desugar

def WithoutElif (t : SyntaxTree) : Prop := ∀ u ∈ t.walk, ∀ c ∈ u.children, c.kind ≠ "elif_clause"

section WithoutElif

variable {P : SyntaxTree → Prop} {t c : SyntaxTree} {cs : List SyntaxTree} {inIf : Bool}

theorem withoutElif_iff :
    WithoutElif t ↔ ∀ c ∈ t.children, c.kind ≠ "elif_clause" ∧ WithoutElif c := by
  rw [WithoutElif, forall_mem_walk, ← forall₂_and]
  rfl

theorem kind_asIf_ne (h : t.kind ≠ "elif_clause") : (asIf t).kind ≠ "elif_clause" := by
  unfold asIf
  split
  . change "if" ≠ "elif_clause"
    decide
  . exact h

theorem withoutElif_asIf (h : WithoutElif t) : WithoutElif (asIf t) := by
  rw [withoutElif_iff, children_asIf]
  exact withoutElif_iff.mp h

section Members

variable (h : ∀ c ∈ cs, c.kind ≠ "elif_clause" → P (desugar c))

include h

theorem forall_mem_othersOf : ∀ c ∈ othersOf inIf cs, P c := by
  induction cs with
  | nil => simp [othersOf]
  | cons c cs ih =>
    rw [List.forall_mem_cons] at h
    have hcs := ih h.2
    rw [othersOf]
    split
    . exact hcs
    . next hc =>
      simp only [Bool.or_eq_true, beq_iff_eq, not_or] at hc
      exact List.forall_mem_cons.mpr ⟨h.1 hc.1, hcs⟩

variable (helif : ∀ c ∈ cs, c.kind = "elif_clause" →
  ∀ further, (∀ d ∈ further, P d) → P (desugarElif further c))

include helif

theorem forall_mem_branchesOf : ∀ c ∈ branchesOf inIf cs, P c := by
  induction cs with
  | nil => simp [branchesOf]
  | cons c cs ih =>
    rw [List.forall_mem_cons] at h helif
    have hcs := ih h.2 helif.2
    rw [branchesOf]
    split
    . next hc => exact List.forall_mem_singleton.mpr (helif.1 (beq_iff_eq.mp hc) _ hcs)
    . next hc =>
      split
      . exact List.forall_mem_cons.mpr ⟨h.1 (by simpa using hc), hcs⟩
      . exact hcs

theorem forall_mem_desugarBelow : ∀ c ∈ desugarBelow inIf cs, P c := by
  induction cs with
  | nil => simp [desugarBelow]
  | cons c cs ih =>
    rw [List.forall_mem_cons] at h helif
    rw [desugarBelow]
    split
    . next hc =>
      exact List.forall_mem_cons.mpr ⟨helif.1 (beq_iff_eq.mp hc) _
        (forall_mem_branchesOf h.2 helif.2), forall_mem_othersOf h.2⟩
    . next hc => exact List.forall_mem_cons.mpr ⟨h.1 (by simpa using hc), ih h.2 helif.2⟩

end Members

theorem withoutElif_desugarElif {further : List SyntaxTree} (hkind : c.kind = "elif_clause")
    (h : WithoutElif (desugar c))
    (hfurther : ∀ d ∈ further, d.kind ≠ "elif_clause" ∧ WithoutElif d) :
    WithoutElif (desugarElif further c) := by
  rw [withoutElif_iff, children_desugar, hkind] at h
  rw [desugarElif_eq, withoutElif_iff, children, List.forall_mem_singleton, withoutElif_iff,
    children, List.forall_mem_append, List.forall_mem_map]
  refine ⟨by simp [kind, info], ?_, hfurther⟩
  intro d hd
  obtain ⟨hne, hbelow⟩ := h d hd
  exact ⟨kind_asIf_ne hne, withoutElif_asIf hbelow⟩

theorem withoutElif_desugar (t : SyntaxTree) : WithoutElif (desugar t) := by
  induction t using SyntaxTree.induction with
  | h t ih =>
    rw [withoutElif_iff, children_desugar]
    apply forall_mem_desugarBelow
    . intro c hc hkind
      exact ⟨by rwa [kind_desugar], ih c hc⟩
    . intro c hc hkind further hfurther
      exact ⟨by simp [kind_desugarElif], withoutElif_desugarElif hkind (ih c hc) hfurther⟩

theorem desugarBelow_eq_map (h : ∀ c ∈ cs, c.kind ≠ "elif_clause") :
    desugarBelow inIf cs = cs.map desugar := by
  induction cs with
  | nil => rfl
  | cons c cs ih =>
    rw [List.forall_mem_cons] at h
    rw [desugarBelow, if_neg (by simpa using h.1), ih h.2, List.map_cons]

theorem desugar_eq_self (h : WithoutElif t) : desugar t = t := by
  induction t using SyntaxTree.induction with
  | h t ih =>
    rw [withoutElif_iff] at h
    have hchildren : t.children.map desugar = t.children.map id :=
      List.map_congr_left fun c hc => ih c hc (h c hc).2
    rw [desugar_eq, desugarBelow_eq_map fun c hc => (h c hc).1, hchildren, List.map_id]
    cases t
    rfl

end WithoutElif

def statements (t : SyntaxTree) : Nat := t.walk.countP nests

section Statements

variable {c : SyntaxTree} {cs : List SyntaxTree} {inIf : Bool}

theorem statements_eq (t : SyntaxTree) :
    statements t = (nests t).toNat + (t.children.map statements).sum :=
  countP_walk nests t

theorem statements_asIf (t : SyntaxTree) : statements (asIf t) = statements t := by
  rw [statements_eq, nests_asIf, children_asIf, ← statements_eq]

theorem statements_desugarElif (further : List SyntaxTree) (h : c.kind = "elif_clause") :
    statements (desugarElif further c) =
      1 + statements (desugar c) + (further.map statements).sum := by
  have hbelow : statements (desugar c) = ((desugarBelow false c.children).map statements).sum := by
    rw [statements_eq, children_desugar, nests_desugar, h]
    simp [nests, h]
  have hasIf : statements ∘ asIf = statements := funext statements_asIf
  rw [hbelow, desugarElif_eq, statements_eq, children, List.map_singleton, List.sum_singleton,
    statements_eq, children, List.map_append, List.sum_append, List.map_map, hasIf]
  simp [nests, kind, info, Nat.add_assoc]

theorem sum_branchesOf_add (inIf : Bool) (cs : List SyntaxTree) :
    ((branchesOf inIf cs).map statements).sum + ((othersOf inIf cs).map statements).sum =
      (cs.map fun c => statements (desugar c) + (c.kind == "elif_clause").toNat).sum := by
  induction cs with
  | nil => rfl
  | cons c cs ih =>
    rw [branchesOf, othersOf, List.map_cons, List.sum_cons, ← ih]
    cases helif : c.kind == "elif_clause" with
    | true =>
      have hc := statements_desugarElif (branchesOf inIf cs) (beq_iff_eq.mp helif)
      simp only [↓reduceIte, Bool.true_or, List.map_singleton, List.sum_singleton, hc,
        Bool.toNat_true]
      omega
    | false =>
      cases helse : c.kind == "else_clause" && inIf with
      | true =>
        simp only [↓reduceIte, Bool.or_true, Bool.false_eq_true, List.map_cons, List.sum_cons,
          Bool.toNat_false]
        omega
      | false =>
        simp only [↓reduceIte, Bool.or_false, Bool.false_eq_true, List.map_cons, List.sum_cons,
          Bool.toNat_false]
        omega

theorem sum_desugarBelow (cs : List SyntaxTree) : ((desugarBelow inIf cs).map statements).sum =
    (cs.map fun c => statements (desugar c) + (c.kind == "elif_clause").toNat).sum := by
  induction cs with
  | nil => rfl
  | cons c cs ih =>
    rw [desugarBelow, List.map_cons, List.sum_cons]
    cases helif : c.kind == "elif_clause" with
    | true =>
      have hc := statements_desugarElif (branchesOf inIf cs) (beq_iff_eq.mp helif)
      rw [← sum_branchesOf_add inIf]
      simp only [↓reduceIte, List.map_cons, List.sum_cons, hc, Bool.toNat_true]
      omega
    | false =>
      simp only [↓reduceIte, Bool.false_eq_true, List.map_cons, List.sum_cons, ih,
        Bool.toNat_false, Nat.add_zero]

theorem statements_desugar (t : SyntaxTree) :
    statements (desugar t) + (t.kind == "elif_clause").toNat =
      t.walk.countP fun u => nests u || u.kind == "elif_clause" := by
  induction t using SyntaxTree.induction with
  | h t ih =>
    rw [statements_eq, nests_desugar, children_desugar, sum_desugarBelow, List.map_congr_left ih,
      countP_walk]
    have hroot : (nests t || t.kind == "elif_clause").toNat =
        (nests t).toNat + (t.kind == "elif_clause").toNat := by
      cases helif : t.kind == "elif_clause" with
      | true => simp [nests, beq_iff_eq.mp helif]
      | false => simp
    rw [hroot, Nat.add_right_comm]

end Statements

structure NestsAsDesugared (t : SyntaxTree) : Prop where
  withoutElif : WithoutElif (desugar t)
  desugar_eq : WithoutElif t → desugar t = t
  statements_eq : t.kind ≠ "elif_clause" →
    statements (desugar t) = t.walk.countP fun u => nests u || u.kind == "elif_clause"
  depth_eq : nestingDepth t = (desugar t).places.sup (statementsAround (desugar t))
  depth_eq_above : (∀ u ∈ (desugar t).walk, nests u = true → u.children ≠ []) →
    nestingDepth t = (desugar t).places.sup (statementsAbove (desugar t))
  eq_zero_iff : nestingDepth t = 0 ↔ ∀ u ∈ (desugar t).walk, nests u = false
  eq_zero : (∀ u ∈ t.walk, ∀ c ∈ u.children, c.kind = "elif_clause" → u.kind = "if_statement") →
    (∀ u ∈ t.walk, nests u = false) → nestingDepth t = 0

theorem nestingDepth_eq_deepest (t : SyntaxTree) : nestingDepth t = deepest (desugar t) := by
  rw [nestingDepth, nestingFrom_eq_deepest, Nat.zero_add]

theorem nestingDepth_eq_zero_iff {t : SyntaxTree} :
    nestingDepth t = 0 ↔ ∀ u ∈ (desugar t).walk, nests u = false := by
  rw [nestingDepth_eq_deepest, deepest_eq_zero_iff]

theorem nestingDepth_desugared (t : SyntaxTree) : NestsAsDesugared t := by
  constructor
  case withoutElif => exact withoutElif_desugar t
  case desugar_eq => exact desugar_eq_self
  case statements_eq =>
    intro hkind
    rw [← statements_desugar, beq_eq_false_iff_ne.mpr hkind]
    rfl
  case depth_eq => exact nestingDepth_eq_deepest t
  case depth_eq_above =>
    intro h
    rw [nestingDepth_eq_deepest, deepest_eq_sup_statementsAbove h]
  case eq_zero_iff => exact nestingDepth_eq_zero_iff
  case eq_zero =>
    intro helif hnone
    have hwithout : WithoutElif t := by
      intro u hu c hc hkind
      have hif := hnone u hu
      rw [nests, helif u hu c hc hkind] at hif
      cases hif
    rw [nestingDepth_eq_zero_iff, desugar_eq_self hwithout]
    exact hnone

/-- The tree of `if a: pass elif b: pass else: for c in d: pass`, without most of its words. -/
def loopInElse : SyntaxTree :=
  node "if_statement" [node "if" [], node "block" [],
    node "elif_clause" [node "elif" [], node "block" []],
    node "else_clause" [node "else" [], node "for_statement" [node "for" [], node "block" []]]]
where
  node (kind : String) (children : List SyntaxTree) : SyntaxTree :=
    .node { (default : NodeInfo) with kind } children

theorem nestingDepth_desugared_loopInElse :
    (∀ u ∈ (desugar loopInElse).walk, nests u = true → u.children ≠ []) ∧
      nestingDepth loopInElse = 3 ∧
      (desugar loopInElse).places.sup (statementsAbove (desugar loopInElse)) = 3 := by
  have hchildren : ∀ u ∈ (desugar loopInElse).walk, nests u = true → u.children ≠ [] := by
    simp only [(walk_perm _).mem_iff]
    decide +kernel
  have hdepth : nestingDepth loopInElse = 3 := by decide +kernel
  exact ⟨hchildren, hdepth,
    ((nestingDepth_desugared loopInElse).depth_eq_above hchildren).symm.trans hdepth⟩

end CodeAppraisal
