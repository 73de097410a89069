import CodeAppraisal.Parsing.SyntaxTree
import Mathlib

/-!
This module is about the places of nodes in a syntax tree. Equal nodes may stand at several places,
so what is said of each node of a tree once is said of its places.
-/
namespace CodeAppraisal.Parsing

/-- The way from a node down to another: which child to take at each step. -/
abbrev Place := List Nat

namespace SyntaxTree

theorem induction {P : SyntaxTree → Prop} (h : ∀ t, (∀ c ∈ t.children, P c) → P t)
    (t : SyntaxTree) : P t :=
  h t fun c _ => induction h c
termination_by t
decreasing_by exact sizeOf_lt_of_mem ‹_›

def at? : SyntaxTree → Place → Option SyntaxTree
  | t, [] => some t
  | t, i :: p => t.children[i]?.bind (·.at? p)

@[simp]
theorem at?_nil (t : SyntaxTree) : t.at? [] = some t := by
  simp [at?]

@[simp]
theorem at?_cons (t : SyntaxTree) (i : Nat) (p : Place) :
    t.at? (i :: p) = t.children[i]?.bind (·.at? p) := by
  simp [at?]

theorem at?_append (t : SyntaxTree) (p q : Place) : t.at? (p ++ q) = (t.at? p).bind (·.at? q) := by
  induction p generalizing t with
  | nil => simp
  | cons i p ih =>
    rw [List.cons_append, at?_cons, at?_cons, Option.bind_assoc]
    congr 1
    funext c
    exact ih c

mutual

def places : SyntaxTree → Finset Place
  | .node _ cs => insert [] (placesFrom 0 cs)

def placesFrom : Nat → List SyntaxTree → Finset Place
  | _, [] => ∅
  | i, c :: cs => (places c).image (i :: ·) ∪ placesFrom (i + 1) cs

end

theorem mem_placesFrom {i : Nat} {cs : List SyntaxTree} {p : Place} :
    p ∈ placesFrom i cs ↔ ∃ j c q, cs[j]? = some c ∧ q ∈ places c ∧ p = (i + j) :: q := by
  induction cs generalizing i with
  | nil => simp [placesFrom]
  | cons c cs ih =>
    rw [placesFrom, Finset.mem_union, Finset.mem_image, ih]
    constructor
    . rintro (⟨q, hq, rfl⟩ | ⟨j, d, q, hd, hq, rfl⟩)
      . exact ⟨0, c, q, rfl, hq, rfl⟩
      . exact ⟨j + 1, d, q, hd, hq, by rw [Nat.add_assoc, Nat.add_comm 1]⟩
    . rintro ⟨j, d, q, hd, hq, rfl⟩
      cases j with
      | zero =>
        left
        rw [List.getElem?_cons_zero] at hd
        exact ⟨q, Option.some.inj hd ▸ hq, rfl⟩
      | succ j =>
        right
        exact ⟨j, d, q, hd, hq, by rw [Nat.add_assoc, Nat.add_comm 1]⟩

@[simp]
theorem nil_mem_places (t : SyntaxTree) : [] ∈ t.places := by
  cases t
  simp [places]

@[simp]
theorem cons_mem_places {t : SyntaxTree} {i : Nat} {p : Place} :
    i :: p ∈ t.places ↔ ∃ c, t.children[i]? = some c ∧ p ∈ c.places := by
  cases t with
  | node info cs =>
    simp only [places, Finset.mem_insert, reduceCtorEq, false_or, mem_placesFrom, children,
      Nat.zero_add, List.cons.injEq]
    constructor
    . rintro ⟨j, c, q, hc, hq, rfl, rfl⟩
      exact ⟨c, hc, hq⟩
    . rintro ⟨c, hc, hp⟩
      exact ⟨i, c, p, hc, hp, rfl, rfl⟩

theorem mem_places {t : SyntaxTree} {p : Place} : p ∈ t.places ↔ (t.at? p).isSome := by
  induction p generalizing t with
  | nil => simp
  | cons i p ih =>
    rw [cons_mem_places, at?_cons, Option.isSome_bind]
    cases t.children[i]? <;> simp [ih]

theorem exists_node {t : SyntaxTree} {p : Place} (h : p ∈ t.places) : ∃ u, t.at? p = some u :=
  Option.isSome_iff_exists.mp (mem_places.mp h)

noncomputable def under (S : Finset Place) (i : Nat) : Finset Place :=
  S.preimage (i :: ·) List.cons_injective.injOn

@[simp]
theorem mem_under {S : Finset Place} {i : Nat} {p : Place} : p ∈ under S i ↔ i :: p ∈ S :=
  Finset.mem_preimage

theorem filter_headD_eq {S : Finset Place} (hroot : [] ∉ S) (i : Nat) :
    S.filter (·.headD 0 = i) = (under S i).image (i :: ·) := by
  ext p
  cases p with
  | nil => simp [hroot]
  | cons j q =>
    simp only [Finset.mem_filter, List.headD_cons, Finset.mem_image, mem_under, List.cons.injEq]
    constructor
    . rintro ⟨hp, rfl⟩
      exact ⟨q, hp, rfl, rfl⟩
    . rintro ⟨q, hp, rfl, rfl⟩
      exact ⟨hp, rfl⟩

section Sum

variable {t : SyntaxTree} {S : Finset Place} {M : Type} [AddCommMonoid M]

theorem sum_under (hS : S ⊆ t.places) (hroot : [] ∉ S) (f : Place → M) :
    ∑ p ∈ S, f p = ∑ i : Fin t.children.length, ∑ q ∈ under S i, f (i :: q) := by
  have hhead : ∀ p ∈ S, p.headD 0 ∈ Finset.range t.children.length := by
    intro p hp
    cases p with
    | nil => exact absurd hp hroot
    | cons i q =>
      obtain ⟨c, hc, _⟩ := cons_mem_places.mp (hS hp)
      simpa using (List.getElem?_eq_some_iff.mp hc).1
  rw [← Finset.sum_fiberwise_of_maps_to hhead, Finset.sum_range]
  apply Finset.sum_congr rfl
  intro i _
  rw [filter_headD_eq hroot, Finset.sum_image List.cons_injective.injOn]

theorem sum_places (t : SyntaxTree) (f : Place → M) :
    ∑ p ∈ t.places, f p =
      f [] + ∑ i : Fin t.children.length, ∑ q ∈ t.children[i].places, f (i :: q) := by
  rw [← Finset.add_sum_erase t.places f (nil_mem_places t),
    sum_under (Finset.erase_subset _ _) (by simp)]
  congr 1
  apply Finset.sum_congr rfl
  intro i _
  apply Finset.sum_congr _ fun _ _ => rfl
  ext p
  simp

end Sum

def sumAt (weight : SyntaxTree → Nat) (t : SyntaxTree) (S : Finset Place) : Nat :=
  ∑ p ∈ S, (t.at? p).elim 0 weight

section SumAt

variable {t : SyntaxTree} {S : Finset Place} {weight : SyntaxTree → Nat}

theorem sumAt_eq_card (hS : S ⊆ t.places) : sumAt (fun _ => 1) t S = S.card := by
  rw [Finset.card_eq_sum_ones]
  apply Finset.sum_congr rfl
  intro p hp
  obtain ⟨c, hc⟩ := exists_node (hS hp)
  rw [hc, Option.elim_some]

theorem sumAt_add (weight' : SyntaxTree → Nat) :
    sumAt (fun c => weight c + weight' c) t S = sumAt weight t S + sumAt weight' t S := by
  unfold sumAt
  rw [← Finset.sum_add_distrib]
  apply Finset.sum_congr rfl
  intro p _
  cases t.at? p <;> simp

theorem sumAt_union {S' : Finset Place} (h : Disjoint S S') :
    sumAt weight t (S ∪ S') = sumAt weight t S + sumAt weight t S' :=
  Finset.sum_union h

theorem sumAt_children (hS : S ⊆ t.places) (hroot : [] ∉ S) {share : SyntaxTree → Nat}
    (hshare : ∀ i c, t.children[i]? = some c → sumAt weight c (under S i) = share c) :
    sumAt weight t S = (t.children.map share).sum := by
  rw [sumAt, sum_under hS hroot, ← Fin.sum_univ_fun_getElem]
  apply Finset.sum_congr rfl
  intro i _
  simpa [sumAt] using hshare i t.children[i] (by simp)

end SumAt

theorem card_places (t : SyntaxTree) :
    t.places.card = 1 + (t.children.map (·.places.card)).sum := by
  simp only [Finset.card_eq_sum_ones]
  rw [sum_places, ← Fin.sum_univ_fun_getElem]
  rfl

theorem card_places_child {t c : SyntaxTree} (h : c ∈ t.children) :
    c.places.card < t.places.card := by
  have := List.le_sum_of_mem (List.mem_map_of_mem (f := (·.places.card)) h)
  rw [card_places t]
  omega

def within (S : SyntaxTree → Finset Place) (t : SyntaxTree) (Q : Finset Place) : Finset Place :=
  Q.biUnion fun q => ((t.at? q).elim ∅ S).image (q ++ ·)

section Within

variable {S : SyntaxTree → Finset Place} {t : SyntaxTree} {Q : Finset Place} {p : Place}

theorem mem_within :
    p ∈ within S t Q ↔ ∃ q ∈ Q, ∃ c, t.at? q = some c ∧ ∃ r ∈ S c, q ++ r = p := by
  simp only [within, Finset.mem_biUnion, Finset.mem_image]
  constructor
  . rintro ⟨q, hq, r, hr, rfl⟩
    cases hc : t.at? q with
    | none => simp [hc] at hr
    | some c => exact ⟨q, hq, c, hc, r, by simpa [hc] using hr, rfl⟩
  . rintro ⟨q, hq, c, hc, r, hr, rfl⟩
    exact ⟨q, hq, r, by simpa [hc] using hr, rfl⟩

theorem within_subset (hS : ∀ c, S c ⊆ c.places) : within S t Q ⊆ t.places := by
  intro p hp
  obtain ⟨q, _, c, hc, r, hr, rfl⟩ := mem_within.mp hp
  rw [mem_places, at?_append, hc, Option.bind_some]
  exact mem_places.mp (hS c hr)

def Apart (Q : Finset Place) : Prop := ∀ q ∈ Q, ∀ q' ∈ Q, q <+: q' → q = q'

theorem Apart.eq_of_append (hQ : Apart Q) {q q' r r' : Place} (hq : q ∈ Q) (hq' : q' ∈ Q)
    (h : q ++ r = q' ++ r') : q = q' := by
  cases List.prefix_or_prefix_of_prefix (List.prefix_append q r)
      (h ▸ List.prefix_append q' r') with
  | inl hprefix => exact hQ q hq q' hq' hprefix
  | inr hprefix => exact (hQ q' hq' q hq hprefix).symm

theorem sumAt_within {weight : SyntaxTree → Nat} (hQ : Apart Q) :
    sumAt weight t (within S t Q) = sumAt (fun c => sumAt weight c (S c)) t Q := by
  unfold within
  rw [sumAt, Finset.sum_biUnion]
  . apply Finset.sum_congr rfl
    intro q _
    rw [Finset.sum_image (List.append_right_injective q).injOn]
    cases hc : t.at? q with
    | none => simp
    | some c => simp [sumAt, at?_append, hc]
  . intro q hq q' hq' hne
    rw [Function.onFun, Finset.disjoint_left]
    intro p hp hp'
    obtain ⟨r, _, rfl⟩ := Finset.mem_image.mp hp
    obtain ⟨r', _, hr'⟩ := Finset.mem_image.mp hp'
    exact hne (hQ.eq_of_append hq hq' hr'.symm)

end Within

end SyntaxTree

end CodeAppraisal.Parsing
