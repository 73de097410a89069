import CodeAppraisal.Proofs.Parsing.Walk

/-!
This module puts places into the order of the text: a node comes before those below it, and what is
below one child comes before what is below the next. As lists of numbers, places are in that order
when they are in lexicographic order.
-/
namespace CodeAppraisal.Parsing

namespace SyntaxTree

def inOrder (S : Finset Place) : List Place := S.sort (· ≤ ·)

section InOrder

variable {t : SyntaxTree} {S : Finset Place}

@[simp]
theorem mem_inOrder {p : Place} : p ∈ inOrder S ↔ p ∈ S :=
  Finset.mem_sort _

theorem length_inOrder (S : Finset Place) : (inOrder S).length = S.card :=
  Finset.length_sort _

theorem inOrder_pairwise (S : Finset Place) : (inOrder S).Pairwise (· < ·) :=
  S.sortedLT_sort.pairwise

@[simp]
theorem inOrder_empty : inOrder ∅ = [] :=
  Finset.sort_empty _

@[simp]
theorem inOrder_singleton (p : Place) : inOrder {p} = [p] :=
  Finset.sort_singleton _ p

theorem inOrder_eq {ps : List Place} (hps : ps.Pairwise (· < ·)) (hmem : ∀ p, p ∈ ps ↔ p ∈ S) :
    inOrder S = ps := by
  have hset : ps.toFinset = S := by
    ext p
    rw [List.mem_toFinset, hmem]
  rw [inOrder, ← hset]
  exact (List.toFinset_sort _ (hps.imp ne_of_lt)).mpr (hps.imp le_of_lt)

theorem append_lt_append {p q r : Place} : p ++ q < p ++ r ↔ q < r := by
  induction p with
  | nil => rfl
  | cons i p ih => simp [ih]

theorem lt_append {p q : Place} (h : q ≠ []) : p < p ++ q := by
  cases q with
  | nil => exact absurd rfl h
  | cons i q => simpa using (append_lt_append (p := p)).mpr (List.nil_lt_cons i q)

theorem append_lt_append_of_apart {p q : Place} (h : p < q) (hapart : ¬ p <+: q) (r s : Place) :
    p ++ r < q ++ s := by
  induction p generalizing q with
  | nil => exact absurd List.nil_prefix hapart
  | cons i p ih =>
    cases q with
    | nil => exact absurd h (List.not_lt_nil _)
    | cons j q =>
      rw [List.cons_append, List.cons_append, List.cons_lt_cons_iff]
      rw [List.cons_lt_cons_iff] at h
      obtain hij | ⟨rfl, hpq⟩ := h
      . exact .inl hij
      . exact .inr ⟨rfl, ih hpq fun hprefix => hapart (List.cons_prefix_cons.mpr ⟨rfl, hprefix⟩)⟩

theorem inOrder_filter (P : Place → Prop) [DecidablePred P] :
    inOrder (S.filter P) = (inOrder S).filter P := by
  apply inOrder_eq
  . exact (inOrder_pairwise S).filter _
  . simp

theorem sublist_inOrder {ps : List Place} (hps : ps.Pairwise (· < ·)) (h : ∀ p ∈ ps, p ∈ S) :
    ps.Sublist (inOrder S) := by
  have hfilter : (inOrder S).filter (· ∈ ps) = ps := by
    rw [← inOrder_filter]
    apply inOrder_eq hps
    intro p
    rw [Finset.mem_filter, and_iff_right_of_imp (h p)]
  rw [← hfilter]
  exact List.filter_sublist

theorem inOrder_insert_nil (hroot : [] ∉ S) : inOrder (insert [] S) = [] :: inOrder S := by
  apply inOrder_eq
  . rw [List.pairwise_cons]
    refine ⟨?_, inOrder_pairwise S⟩
    intro p hp
    cases p with
    | nil => exact absurd (mem_inOrder.mp hp) hroot
    | cons i p => exact List.nil_lt_cons i p
  . simp

theorem inOrder_image_append (p : Place) :
    inOrder (S.image (p ++ ·)) = (inOrder S).map (p ++ ·) := by
  apply inOrder_eq
  . exact List.pairwise_map.mpr ((inOrder_pairwise S).imp append_lt_append.mpr)
  . simp

theorem inOrder_children (hS : S ⊆ t.places) (hroot : [] ∉ S) :
    inOrder S = (List.range t.children.length).flatMap fun i =>
      (inOrder (under S i)).map (i :: ·) := by
  apply inOrder_eq
  . rw [List.pairwise_flatMap]
    constructor
    . intro i _
      exact List.pairwise_map.mpr
        ((inOrder_pairwise _).imp fun h => (append_lt_append (p := [i])).mpr h)
    . refine List.pairwise_lt_range.imp ?_
      intro i j hij p hp q hq
      obtain ⟨p, _, rfl⟩ := List.mem_map.mp hp
      obtain ⟨q, _, rfl⟩ := List.mem_map.mp hq
      exact List.cons_lt_cons_iff.mpr (.inl hij)
  . intro p
    simp only [List.mem_flatMap, List.mem_range, List.mem_map, mem_inOrder, mem_under]
    constructor
    . rintro ⟨i, _, q, hq, rfl⟩
      exact hq
    . intro hp
      cases p with
      | nil => exact absurd hp hroot
      | cons i q =>
        obtain ⟨c, hc, _⟩ := cons_mem_places.mp (hS hp)
        exact ⟨i, (List.getElem?_eq_some_iff.mp hc).1, q, hp, rfl⟩

variable {β : Type}

theorem map_inOrder_children (hS : S ⊆ t.places) (hroot : [] ∉ S) {read : Place → β}
    {share : SyntaxTree → List β}
    (hshare : ∀ i c, t.children[i]? = some c →
      (inOrder (under S i)).map (fun q => read (i :: q)) = share c) :
    (inOrder S).map read = t.children.flatMap share := by
  rw [inOrder_children hS hroot, List.map_flatMap, ← List.map_coe_finRange_eq_range,
    List.flatMap_map]
  conv_rhs => rw [← List.map_getElem_finRange t.children, List.flatMap_map]
  congr 1
  funext i
  rw [List.map_map]
  exact hshare i t.children[i] (by simp)

end InOrder

theorem forall₂_of_map_eq {β γ δ : Type} {f : β → δ} {g : γ → δ} {xs : List β} {ys : List γ}
    (h : xs.map f = ys.map g) : List.Forall₂ (fun x y => x ∈ xs ∧ y ∈ ys ∧ f x = g y) xs ys := by
  have hall : List.Forall₂ (fun x y => f x = g y) xs ys := by
    rw [← List.forall₂_map_left_iff (R := fun z y => z = g y), ← List.forall₂_map_right_iff,
      List.forall₂_eq_eq_eq]
    exact h
  rw [List.forall₂_iff_zip] at hall ⊢
  refine ⟨hall.1, ?_⟩
  intro x y hxy
  exact ⟨(List.of_mem_zip hxy).1, (List.of_mem_zip hxy).2, hall.2 hxy⟩

theorem map_at?_inOrder (t : SyntaxTree) : (inOrder t.places).map t.at? = t.nodes.map some := by
  induction t using SyntaxTree.induction with
  | h t ih =>
    have hroot : [] ∉ t.places.erase [] := Finset.notMem_erase [] _
    have hbelow : (inOrder (t.places.erase [])).map t.at? =
        t.children.flatMap fun c => c.nodes.map some := by
      apply map_inOrder_children (Finset.erase_subset _ _) hroot
      intro i c hc
      have hunder : under (t.places.erase []) i = c.places := by
        ext p
        simp [hc]
      rw [hunder, ← ih c (List.mem_of_getElem? hc)]
      simp [hc]
    rw [← Finset.insert_erase (nil_mem_places t), inOrder_insert_nil hroot, List.map_cons, hbelow,
      at?_nil, nodes_eq, List.map_cons, List.map_flatMap]

end SyntaxTree

end CodeAppraisal.Parsing
