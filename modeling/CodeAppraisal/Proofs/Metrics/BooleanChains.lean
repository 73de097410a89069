import CodeAppraisal.Proofs.Metrics.Usage

/-!
This module shows that the boolean operations of a tree fall into chains, each of which ends where
no operation is linked to the last one. Equal operations may stand in several chains, so chains are
made of places.
-/
namespace CodeAppraisal.Metrics

open CodeAppraisal.Parsing SyntaxTree
open bodyPlaces (part?)

def booleans (t : SyntaxTree) : Finset Place :=
  {p ∈ t.places | (t.at? p).any (·.kind == "boolean_operator")}

/-- Two operations next to each other in a chain: the second is the left operand of the first, and
both have the same boolean operator. -/
def Linked (t : SyntaxTree) (p q : Place) : Prop :=
  ∃ u v i, t.at? p = some u ∧ t.at? q = some v ∧ q = p ++ [i] ∧ part? u "left" = some i ∧
    u.kind = "boolean_operator" ∧ v.kind = "boolean_operator" ∧
    booleanOperator u = booleanOperator v

structure MaximalChain (t : SyntaxTree) (C : List Place) : Prop where
  ne_nil : C ≠ []
  subset : ∀ p ∈ C, p ∈ booleans t
  isChain : C.IsChain (Linked t)
  first : ∀ p ∈ C.head?, ∀ q, ¬Linked t q p
  last : ∀ p ∈ C.getLast?, ∀ q, ¬Linked t p q

section Linked

variable {t c : SyntaxTree} {i : Nat} {p q p' q' : Place}

theorem isLink_iff : isLink t i c = true ↔ t.kind = "boolean_operator" ∧
    part? t "left" = some i ∧ c.kind = "boolean_operator" ∧
      booleanOperator c = booleanOperator t := by
  simp [isLink, continuesChain, and_assoc]

theorem linked_iff : Linked t p q ↔ ∃ u i c, t.at? p = some u ∧ u.children[i]? = some c ∧
    isLink u i c = true ∧ q = p ++ [i] := by
  simp only [isLink_iff]
  constructor
  . rintro ⟨u, v, i, hu, hv, rfl, hi, hkind, hkind', hop⟩
    rw [at?_append, hu, Option.bind_some, at?_cons] at hv
    obtain ⟨c, hc, hv⟩ := Option.bind_eq_some_iff.mp hv
    rw [at?_nil] at hv
    obtain rfl := Option.some.inj hv
    exact ⟨u, i, c, hu, hc, ⟨hkind, hi, hkind', hop.symm⟩, rfl⟩
  . rintro ⟨u, i, c, hu, hc, ⟨hkind, hi, hkind', hop⟩, rfl⟩
    refine ⟨u, c, i, hu, ?_, rfl, hi, hkind, hkind', hop.symm⟩
    rw [at?_append, hu, Option.bind_some, at?_cons, hc, Option.bind_some, at?_nil]

theorem Linked.left_unique (h : Linked t p q) (h' : Linked t p' q) : p = p' := by
  obtain ⟨_, _, i, _, _, rfl, _⟩ := h
  obtain ⟨_, _, i', _, _, heq, _⟩ := h'
  exact (List.append_inj' heq rfl).1

theorem Linked.right_unique (h : Linked t p q) (h' : Linked t p q') : q = q' := by
  obtain ⟨u, _, i, hu, _, rfl, hi, _⟩ := h
  obtain ⟨u', _, i', hu', _, rfl, hi', _⟩ := h'
  obtain rfl := Option.some.inj (hu.symm.trans hu')
  rw [Option.some.inj (hi.symm.trans hi')]

theorem Linked.mem_booleans (h : Linked t p q) : p ∈ booleans t ∧ q ∈ booleans t := by
  obtain ⟨u, v, i, hu, hv, _, _, hkind, hkind', _⟩ := h
  constructor
  . simp [booleans, mem_places, hu, hkind]
  . simp [booleans, mem_places, hv, hkind']

theorem Linked.length_lt (h : Linked t p q) : p.length < q.length := by
  obtain ⟨_, _, i, _, _, rfl, _⟩ := h
  simp

theorem linked_append (hp : t.at? p = some c) : Linked t (p ++ q) (p ++ q') ↔ Linked c q q' := by
  unfold Linked
  simp only [at?_append, hp, Option.bind_some, List.append_assoc, List.append_cancel_left_eq]

theorem linked_cons (hc : t.children[i]? = some c) : Linked t q (i :: p) ↔
    q = [] ∧ p = [] ∧ isLink t i c = true ∨ ∃ r, q = i :: r ∧ Linked c r p := by
  have hchild : t.at? [i] = some c := by simp [hc]
  constructor
  . intro h
    cases q with
    | nil =>
      left
      obtain ⟨u, j, d, hu, hd, hlink, heq⟩ := linked_iff.mp h
      rw [List.nil_append, List.cons.injEq] at heq
      obtain ⟨rfl, rfl⟩ := heq
      obtain rfl := Option.some.inj hu
      obtain rfl := Option.some.inj (hc.symm.trans hd)
      exact ⟨rfl, rfl, hlink⟩
    | cons j r =>
      right
      obtain ⟨_, _, _, _, _, heq, _⟩ := id h
      rw [List.cons_append, List.cons.injEq] at heq
      obtain rfl := heq.1
      exact ⟨r, rfl, (linked_append hchild).mp h⟩
  . rintro (⟨rfl, rfl, hlink⟩ | ⟨r, rfl, h⟩)
    . exact linked_iff.mpr ⟨t, i, c, at?_nil t, hc, hlink, rfl⟩
    . exact (linked_append hchild).mpr h

theorem not_linked_nil : ¬Linked t q [] := by
  rintro ⟨_, _, i, _, _, heq, _⟩
  exact absurd heq.symm (by simp)

theorem inChainAt_iff {inChain : Bool} : inChainAt inChain t p = true ↔
    p = [] ∧ inChain = true ∨ ∃ q, Linked t q p := by
  induction p generalizing t inChain with
  | nil => simp [inChainAt, not_linked_nil]
  | cons i p ih =>
    rw [inChainAt]
    cases hc : t.children[i]? with
    | none =>
      have hnone : ∀ q, ¬Linked t q (i :: p) := by
        rintro q ⟨_, v, _, _, hv, _⟩
        simp [hc] at hv
      simp [hnone]
    | some c =>
      simp only [Option.any_some, ih, linked_cons hc, reduceCtorEq, false_and, false_or]
      constructor
      . rintro (⟨rfl, hlink⟩ | ⟨q, h⟩)
        . exact ⟨[], .inl ⟨rfl, rfl, hlink⟩⟩
        . exact ⟨i :: q, .inr ⟨q, rfl, h⟩⟩
      . rintro ⟨q, ⟨rfl, rfl, hlink⟩ | ⟨r, rfl, h⟩⟩
        . exact .inl ⟨rfl, hlink⟩
        . exact .inr ⟨r, h⟩

end Linked

section Chains

variable {α : Type} {R : α → α → Prop}

theorem head?_or_exists_of_isChain {C : List α} (h : C.IsChain R) {p : α} (hp : p ∈ C) :
    p ∈ C.head? ∨ ∃ q ∈ C, R q p := by
  induction h with
  | nil => cases hp
  | singleton a => simp_all
  | cons_cons hab h ih =>
    rw [List.mem_cons] at hp
    obtain rfl | hp := hp
    . simp
    . right
      obtain hhead | ⟨q, hq, hqp⟩ := ih hp
      . obtain rfl : _ = p := by simpa using hhead
        exact ⟨_, List.mem_cons_self, hab⟩
      . exact ⟨q, List.mem_cons_of_mem _ hq, hqp⟩

theorem getLast?_or_exists_of_isChain {C : List α} (h : C.IsChain R) {p : α} (hp : p ∈ C) :
    p ∈ C.getLast? ∨ ∃ q ∈ C, R p q := by
  induction h with
  | nil => cases hp
  | singleton a => simp_all
  | cons_cons hab h ih =>
    rw [List.mem_cons] at hp
    obtain rfl | hp := hp
    . exact .inr ⟨_, by simp, hab⟩
    . obtain hlast | ⟨q, hq, hpq⟩ := ih hp
      . left
        rw [List.getLast?_cons_cons]
        exact hlast
      . exact .inr ⟨q, List.mem_cons_of_mem _ hq, hpq⟩

theorem eq_of_isChain (hR : ∀ {p q q'}, R p q → R p q' → q = q') {C D : List α}
    (hC : C.IsChain R) (hD : D.IsChain R) (hlast : ∀ p ∈ C.getLast?, ∀ q, ¬R p q)
    (hlast' : ∀ p ∈ D.getLast?, ∀ q, ¬R p q) (hhead : C.head? = D.head?) : C = D := by
  induction hC generalizing D with
  | nil => simpa using hhead.symm
  | singleton a =>
    cases hD with
    | nil => cases hhead
    | singleton b => simpa using hhead
    | cons_cons hab h =>
      obtain rfl : a = _ := by simpa using hhead
      exact absurd hab (hlast a (by simp) _)
  | cons_cons hab h ih =>
    cases hD with
    | nil => cases hhead
    | singleton b =>
      obtain rfl : _ = b := by simpa using hhead
      exact absurd hab (hlast' _ (by simp) _)
    | cons_cons hcd h' =>
      obtain rfl : _ = _ := by simpa using hhead
      obtain rfl := hR hab hcd
      rw [List.getLast?_cons_cons] at hlast hlast'
      rw [ih h' hlast hlast' rfl]

end Chains

section Maximal

variable {t : SyntaxTree} {C D : List Place} {p q : Place}

theorem MaximalChain.mem_iff_of_linked (hC : MaximalChain t C) (h : Linked t p q) :
    p ∈ C ↔ q ∈ C := by
  constructor
  . intro hp
    obtain hlast | ⟨q', hq', h'⟩ := getLast?_or_exists_of_isChain hC.isChain hp
    . exact absurd h (hC.last p hlast q)
    . exact h.right_unique h' ▸ hq'
  . intro hq
    obtain hfirst | ⟨p', hp', h'⟩ := head?_or_exists_of_isChain hC.isChain hq
    . exact absurd h (hC.first q hfirst p)
    . exact h.left_unique h' ▸ hp'

theorem MaximalChain.eq_of_head? (hC : MaximalChain t C) (hD : MaximalChain t D)
    (h : C.head? = D.head?) : C = D :=
  eq_of_isChain (fun hq hq' => hq.right_unique hq') hC.isChain hD.isChain hC.last hD.last h

theorem MaximalChain.eq_of_mem (hC : MaximalChain t C) (hD : MaximalChain t D) (hp : p ∈ C)
    (hp' : p ∈ D) : C = D := by
  induction hn : p.length using Nat.strong_induction_on generalizing p with
  | h n ih =>
    by_cases h : ∃ q, Linked t q p
    . -- the operation above is in both as well
      obtain ⟨q, h⟩ := h
      have hq := (hC.mem_iff_of_linked h).mpr hp
      have hq' := (hD.mem_iff_of_linked h).mpr hp'
      exact ih q.length (hn ▸ h.length_lt) hq hq' rfl
    . have hhead : ∀ {E}, MaximalChain t E → p ∈ E → E.head? = some p := by
        intro E hE hpE
        obtain hfirst | ⟨q, _, hq⟩ := head?_or_exists_of_isChain hE.isChain hpE
        . exact hfirst
        . exact absurd ⟨q, hq⟩ h
      exact hC.eq_of_head? hD ((hhead hC hp).trans (hhead hD hp').symm)

theorem MaximalChain.nodup (hC : MaximalChain t C) : C.Nodup := by
  have : IsTrans Place fun p q => p.length < q.length := ⟨fun _ _ _ => Nat.lt_trans⟩
  have hlength := List.isChain_iff_pairwise.mp (hC.isChain.imp fun _ _ h => h.length_lt)
  refine hlength.imp fun h => ?_
  rintro rfl
  exact Nat.lt_irrefl _ h

end Maximal

def nextLink? (t : SyntaxTree) : Option (Nat × SyntaxTree) := do
  let i ← part? t "left"
  let c ← t.children[i]?
  if isLink t i c then some (i, c) else none

theorem nextLink?_eq_some_iff {t c : SyntaxTree} {i : Nat} :
    nextLink? t = some (i, c) ↔ t.children[i]? = some c ∧ isLink t i c = true := by
  unfold nextLink?
  constructor
  . intro h
    obtain ⟨j, hj, h⟩ := Option.bind_eq_some_iff.mp h
    obtain ⟨d, hd, h⟩ := Option.bind_eq_some_iff.mp h
    rw [Option.ite_none_right_eq_some, Option.some.injEq, Prod.mk.injEq] at h
    obtain ⟨hlink, rfl, rfl⟩ := h
    exact ⟨hd, hlink⟩
  . rintro ⟨hc, hlink⟩
    simp [(isLink_iff.mp hlink).2.1, hc, hlink]

def chainBelow (t : SyntaxTree) : List Place :=
  [] :: match _h : nextLink? t with
    | some (i, c) => (chainBelow c).map (i :: ·)
    | none => []
termination_by t
decreasing_by exact sizeOf_lt_of_mem (List.mem_of_getElem? (nextLink?_eq_some_iff.mp ‹_›).1)

theorem chainBelow_eq (t : SyntaxTree) : chainBelow t =
    [] :: (nextLink? t).elim [] fun (i, c) => (chainBelow c).map (i :: ·) := by
  rw [chainBelow]
  split
  . next h => rw [h, Option.elim_some]
  . next h => rw [h, Option.elim_none]

theorem linked_nil_iff {t : SyntaxTree} {p : Place} :
    Linked t [] p ↔ ∃ i c, nextLink? t = some (i, c) ∧ p = [i] := by
  simp only [linked_iff, at?_nil, Option.some.injEq, nextLink?_eq_some_iff, List.nil_append]
  constructor
  . rintro ⟨_, i, c, rfl, hc, hlink, rfl⟩
    exact ⟨i, c, ⟨hc, hlink⟩, rfl⟩
  . rintro ⟨i, c, ⟨hc, hlink⟩, rfl⟩
    exact ⟨t, i, c, rfl, hc, hlink, rfl⟩

theorem chainBelow_ne_nil (t : SyntaxTree) : chainBelow t ≠ [] := by
  rw [chainBelow_eq]
  exact List.cons_ne_nil _ _

theorem head?_chainBelow (t : SyntaxTree) : (chainBelow t).head? = some [] := by
  rw [chainBelow_eq]
  rfl

theorem isChain_chainBelow (t : SyntaxTree) : (chainBelow t).IsChain (Linked t) := by
  induction t using SyntaxTree.induction with
  | h t ih =>
    rw [chainBelow_eq]
    cases h : nextLink? t with
    | none => simp
    | some link =>
      obtain ⟨i, c⟩ := link
      obtain ⟨hc, _⟩ := nextLink?_eq_some_iff.mp h
      have hchild : t.at? [i] = some c := by simp [hc]
      rw [Option.elim_some, List.isChain_cons]
      constructor
      . intro p hp
        rw [List.head?_map, head?_chainBelow] at hp
        obtain rfl : [i] = p := by simpa using hp
        exact linked_nil_iff.mpr ⟨i, c, h, rfl⟩
      . rw [List.isChain_map]
        exact (ih c (List.mem_of_getElem? hc)).imp fun p q hpq => (linked_append hchild).mpr hpq

theorem last_chainBelow (t : SyntaxTree) :
    ∀ p ∈ (chainBelow t).getLast?, ∀ q, ¬Linked t p q := by
  induction t using SyntaxTree.induction with
  | h t ih =>
    intro p hp q
    rw [chainBelow_eq] at hp
    cases h : nextLink? t with
    | none =>
      rw [h] at hp
      obtain rfl : [] = p := by simpa using hp
      simp [linked_nil_iff, h]
    | some link =>
      obtain ⟨i, c⟩ := link
      obtain ⟨hc, _⟩ := nextLink?_eq_some_iff.mp h
      have hchild : t.at? [i] = some c := by simp [hc]
      have hne : (chainBelow c).map (i :: ·) ≠ [] := by simp [chainBelow_ne_nil]
      rw [h, Option.elim_some, List.getLast?_cons_of_ne_nil hne, List.getLast?_map] at hp
      obtain ⟨r, hr, rfl⟩ := Option.map_eq_some_iff.mp hp
      intro hlink
      obtain ⟨_, _, j, _, _, rfl, _⟩ := id hlink
      exact ih c (List.mem_of_getElem? hc) r hr _ ((linked_append hchild).mp hlink)

def chainFrom (t : SyntaxTree) (p : Place) : List Place :=
  (t.at? p).elim [] fun u => (chainBelow u).map (p ++ ·)

def chainHeads (t : SyntaxTree) : Finset Place :=
  {p ∈ booleans t | inChainAt false t p = false}

def chains (t : SyntaxTree) : Finset (List Place) := (chainHeads t).image (chainFrom t)

section Chains

variable {t u : SyntaxTree} {p : Place} {C : List Place}

theorem mem_booleans : p ∈ booleans t ↔ ∃ u, t.at? p = some u ∧ u.kind = "boolean_operator" := by
  rw [booleans, Finset.mem_filter, mem_places]
  cases t.at? p <;> simp

theorem mem_chainHeads : p ∈ chainHeads t ↔ p ∈ booleans t ∧ ∀ q, ¬Linked t q p := by
  rw [chainHeads, Finset.mem_filter, ← Bool.not_eq_true, inChainAt_iff]
  simp

theorem chainFrom_eq (h : t.at? p = some u) : chainFrom t p = (chainBelow u).map (p ++ ·) := by
  rw [chainFrom, h, Option.elim_some]

theorem head?_chainFrom (h : t.at? p = some u) : (chainFrom t p).head? = some p := by
  rw [chainFrom_eq h, List.head?_map, head?_chainBelow]
  simp

theorem maximalChain_chainFrom (h : p ∈ chainHeads t) : MaximalChain t (chainFrom t p) := by
  obtain ⟨hp, hfirst⟩ := mem_chainHeads.mp h
  obtain ⟨u, hu, hkind⟩ := mem_booleans.mp hp
  have hchain : (chainFrom t p).IsChain (Linked t) := by
    rw [chainFrom_eq hu, List.isChain_map]
    exact (isChain_chainBelow u).imp fun _ _ hlink => (linked_append hu).mpr hlink
  constructor
  case ne_nil =>
    intro hnil
    have := head?_chainFrom hu
    simp [hnil] at this
  case subset =>
    intro q hq
    obtain hhead | ⟨r, _, hr⟩ := head?_or_exists_of_isChain hchain hq
    . rw [head?_chainFrom hu] at hhead
      exact Option.some.inj hhead ▸ hp
    . exact hr.mem_booleans.2
  case isChain => exact hchain
  case first =>
    intro q hq
    rw [head?_chainFrom hu] at hq
    exact Option.some.inj hq ▸ hfirst
  case last =>
    intro q hq r hlink
    rw [chainFrom_eq hu, List.getLast?_map] at hq
    obtain ⟨s, hs, rfl⟩ := Option.map_eq_some_iff.mp hq
    obtain ⟨_, _, i, _, _, rfl, _⟩ := id hlink
    rw [List.append_assoc, linked_append hu] at hlink
    exact last_chainBelow u s hs _ hlink

theorem mem_chains : C ∈ chains t ↔ MaximalChain t C := by
  rw [chains, Finset.mem_image]
  constructor
  . rintro ⟨p, hp, rfl⟩
    exact maximalChain_chainFrom hp
  . intro hC
    have hhead := List.head?_eq_some_head hC.ne_nil
    have hp : C.head hC.ne_nil ∈ chainHeads t :=
      mem_chainHeads.mpr ⟨hC.subset _ (List.head_mem _), hC.first _ hhead⟩
    refine ⟨_, hp, ?_⟩
    obtain ⟨u, hu, _⟩ := mem_booleans.mp (mem_chainHeads.mp hp).1
    exact (maximalChain_chainFrom hp).eq_of_head? hC ((head?_chainFrom hu).trans hhead.symm)

theorem exists_maximalChain (h : p ∈ booleans t) : ∃ C, MaximalChain t C ∧ p ∈ C := by
  induction hn : p.length using Nat.strong_induction_on generalizing p with
  | h n ih =>
    by_cases hlink : ∃ q, Linked t q p
    . obtain ⟨q, hq⟩ := hlink
      obtain ⟨C, hC, hmem⟩ := ih q.length (hn ▸ hq.length_lt) hq.mem_booleans.1 rfl
      exact ⟨C, hC, (hC.mem_iff_of_linked hq).mp hmem⟩
    . have hhead : p ∈ chainHeads t := mem_chainHeads.mpr ⟨h, not_exists.mp hlink⟩
      obtain ⟨u, hu, _⟩ := mem_booleans.mp h
      exact ⟨_, maximalChain_chainFrom hhead, List.mem_of_head? (head?_chainFrom hu)⟩

theorem sum_chains {M : Type} [AddCommMonoid M] (t : SyntaxTree) (f : List Place → M) :
    ∑ C ∈ chains t, f C = ∑ p ∈ chainHeads t, f (chainFrom t p) := by
  apply Finset.sum_image
  intro p hp q hq heq
  obtain ⟨u, hu, _⟩ := mem_booleans.mp (mem_chainHeads.mp hp).1
  obtain ⟨v, hv, _⟩ := mem_booleans.mp (mem_chainHeads.mp hq).1
  have hhead := congrArg List.head? heq
  rw [head?_chainFrom hu, head?_chainFrom hv] at hhead
  exact Option.some.inj hhead

theorem sum_length_chains (t : SyntaxTree) :
    ∑ C ∈ chains t, C.length = (booleans t).card := by
  have hunion : booleans t = (chains t).biUnion List.toFinset := by
    ext p
    simp only [Finset.mem_biUnion, mem_chains, List.mem_toFinset]
    constructor
    . exact exists_maximalChain
    . rintro ⟨C, hC, hp⟩
      exact hC.subset p hp
  rw [hunion, Finset.card_biUnion]
  . apply Finset.sum_congr rfl
    intro C hC
    rw [List.toFinset_card_of_nodup (mem_chains.mp hC).nodup]
  . intro C hC D hD hne
    rw [Function.onFun, Finset.disjoint_left]
    intro p hp hp'
    rw [List.mem_toFinset] at hp hp'
    exact hne ((mem_chains.mp hC).eq_of_mem (mem_chains.mp hD) hp hp')

end Chains

end CodeAppraisal.Metrics
