import CodeAppraisal.Parsing.SourceModule
import CodeAppraisal.Proofs.Parsing.DocumentOrder

/-!
This module shows that the search for a fault, which leaves out what is not damaged, finds the
broken node that comes first in the text, and that a text is accepted just if its tree has none.
-/
namespace CodeAppraisal.Parsing

namespace SyntaxTree

/-- A node is damaged just if it is broken itself or has a broken one below it. -/
def Marked (t : SyntaxTree) : Prop :=
  ∀ u ∈ t.nodes, u.info.damaged = true ↔ ∃ v ∈ u.nodes, v.isBroken = true

instance (t : SyntaxTree) : Decidable t.Marked :=
  inferInstanceAs (Decidable (∀ u ∈ t.nodes, _ ↔ ∃ v ∈ u.nodes, _))

structure IsFirstBroken (t : SyntaxTree) (p : Place) (u : SyntaxTree) : Prop where
  at_eq : t.at? p = some u
  broken : u.info.status ≠ .sound
  le_of_broken : ∀ q v, t.at? q = some v → v.info.status ≠ .sound → p ≤ q

section Search

variable {t u c : SyntaxTree} {stack : Array SyntaxTree}

theorem isBroken_iff : t.isBroken = true ↔ t.info.status ≠ .sound := by
  simp [isBroken]

theorem mem_nodes_self (t : SyntaxTree) : t ∈ t.nodes :=
  mem_nodes_of_at? (at?_nil t)

theorem Marked.child (h : t.Marked) (hc : c ∈ t.children) : c.Marked := by
  intro u hu
  apply h
  rw [nodes_eq]
  exact List.mem_cons_of_mem _ (List.mem_flatMap.mpr ⟨c, hc, hu⟩)

theorem Marked.damaged_iff (h : t.Marked) :
    t.info.damaged = true ↔ (t.nodes.find? isBroken).isSome = true := by
  rw [h t (mem_nodes_self t), List.find?_isSome]

theorem Marked.find?_eq_none (h : t.Marked) (hdamaged : t.info.damaged = false) :
    t.nodes.find? isBroken = none := by
  rw [← Option.not_isSome_iff_eq_none, ← h.damaged_iff, hdamaged]
  exact Bool.false_ne_true

theorem firstBrokenOn?_of_back? (h : stack.back? = some t) : firstBrokenOn? stack =
    if t.isBroken then some t
    else if !t.info.damaged then firstBrokenOn? stack.pop
    else firstBrokenOn? (stack.pop ++ t.children.reverse) := by
  rw [firstBrokenOn?]
  split
  . next hnone =>
    rw [h] at hnone
    cases hnone
  . next hsome =>
    rw [h] at hsome
    injection hsome with heq
    rw [heq]

theorem firstBrokenOn?_eq_find? (h : ∀ t ∈ fromTop stack, t.Marked) :
    firstBrokenOn? stack = ((fromTop stack).flatMap nodes).find? isBroken := by
  induction stack using firstBrokenOn?.induct with
  | case1 stack hnone =>
    obtain rfl := Array.back?_eq_none_iff.mp hnone
    rw [firstBrokenOn?]
    rfl
  | case2 stack t htop hbroken =>
    rw [firstBrokenOn?_of_back? htop, if_pos hbroken, fromTop_of_back? htop, List.flatMap_cons,
      nodes_eq, List.cons_append, List.find?_cons_of_pos hbroken]
  | case3 stack t htop hsound hclean ih =>
    rw [fromTop_of_back? htop, List.forall_mem_cons] at h
    have hnone := h.1.find?_eq_none (by simpa using hclean)
    rw [firstBrokenOn?_of_back? htop, if_neg hsound, if_pos hclean, ih h.2, fromTop_of_back? htop,
      List.flatMap_cons, List.find?_append, hnone, Option.none_or]
  | case4 stack t htop hsound hdamaged ih =>
    rw [fromTop_of_back? htop, List.forall_mem_cons] at h
    have hmarked : ∀ c ∈ fromTop (stack.pop ++ t.children.reverse), c.Marked := by
      rw [fromTop_append_reverse, List.forall_mem_append]
      exact ⟨fun c hc => h.1.child hc, h.2⟩
    rw [firstBrokenOn?_of_back? htop, if_neg hsound, if_neg hdamaged, ih hmarked,
      fromTop_append_reverse, fromTop_of_back? htop, List.flatMap_append, List.flatMap_cons,
      nodes_eq, List.cons_append, List.find?_cons_of_neg hsound]

theorem Marked.firstBroken?_eq_find? (h : t.Marked) :
    t.firstBroken? = t.nodes.find? isBroken := by
  have hstack : ∀ u ∈ fromTop #[t], u.Marked := by
    intro u hu
    rwa [List.mem_singleton.mp hu]
  rw [firstBroken?, firstBrokenOn?_eq_find? hstack]
  simp [fromTop]

theorem Marked.isSome_firstBroken?_iff (h : t.Marked) :
    t.firstBroken?.isSome = true ↔ t.info.damaged = true := by
  rw [h.firstBroken?_eq_find?, h.damaged_iff]

theorem Marked.fault?_eq_find? (h : t.Marked) : t.fault? = t.nodes.find? isBroken := by
  rw [fault?]
  split
  . next hdamaged =>
    obtain ⟨u, hu⟩ := Option.isSome_iff_exists.mp (h.isSome_firstBroken?_iff.mpr hdamaged)
    rw [hu, Option.getD_some, ← hu, h.firstBroken?_eq_find?]
  . next hdamaged => exact (h.find?_eq_none (by simpa using hdamaged)).symm

end Search

section TextOrder

variable {t u : SyntaxTree} {p q : Place}

theorem IsFirstBroken.place_unique {u' : SyntaxTree} (h : t.IsFirstBroken p u)
    (h' : t.IsFirstBroken q u') : p = q :=
  le_antisymm (h.le_of_broken q u' h'.at_eq h'.broken) (h'.le_of_broken p u h.at_eq h.broken)

theorem mem_nodes_iff : u ∈ t.nodes ↔ ∃ p, t.at? p = some u := by
  constructor
  . intro hu
    have hmem : some u ∈ (inOrder t.places).map t.at? := by
      rw [map_at?_inOrder]
      exact List.mem_map_of_mem hu
    obtain ⟨p, _, hp⟩ := List.mem_map.mp hmem
    exact ⟨p, hp⟩
  . rintro ⟨p, hp⟩
    exact mem_nodes_of_at? hp

theorem find?_nodes_eq_none_iff : t.nodes.find? isBroken = none ↔
    ∀ p u, t.at? p = some u → u.info.status = .sound := by
  simp only [List.find?_eq_none, mem_nodes_iff, isBroken_iff, not_not]
  constructor
  . intro h p u hp
    exact h u ⟨p, hp⟩
  . rintro h u ⟨p, hp⟩
    exact h p u hp

theorem exists_isFirstBroken (h : t.nodes.find? isBroken = some u) : ∃ p, t.IsFirstBroken p u := by
  obtain ⟨hbroken, before, after, hnodes, hbefore⟩ := List.find?_eq_some_iff_append.mp h
  have hplaces := map_at?_inOrder t
  rw [hnodes, List.map_append, List.map_cons, List.map_eq_append_iff] at hplaces
  obtain ⟨ps, rest, hsplit, hps, hrest⟩ := hplaces
  obtain ⟨p, qs, rfl, hp, hqs⟩ := List.map_eq_cons_iff.mp hrest
  refine ⟨p, hp, isBroken_iff.mp hbroken, ?_⟩
  intro q v hq hv
  have hordered := inOrder_pairwise t.places
  have hmem : q ∈ inOrder t.places := by
    rw [mem_inOrder, mem_places, hq, Option.isSome_some]
  rw [hsplit] at hordered hmem
  obtain hfront | hback := List.mem_append.mp hmem
  . -- in front of the first broken node there is no other
    have hv' : some v ∈ before.map some := by
      rw [← hps, ← hq]
      exact List.mem_map_of_mem hfront
    obtain ⟨w, hw, hwv⟩ := List.mem_map.mp hv'
    injection hwv with heq
    subst heq
    simpa [isBroken_iff.mpr hv] using hbefore w hw
  . obtain rfl | hlater := List.mem_cons.mp hback
    . exact le_refl q
    . exact ((List.pairwise_cons.mp (List.pairwise_append.mp hordered).2.1).1 q hlater).le

theorem find?_nodes_eq_some_iff :
    t.nodes.find? isBroken = some u ↔ ∃ p, t.IsFirstBroken p u := by
  constructor
  . exact exists_isFirstBroken
  . rintro ⟨p, hp⟩
    cases hfind : t.nodes.find? isBroken with
    | none => exact absurd (find?_nodes_eq_none_iff.mp hfind p u hp.at_eq) hp.broken
    | some u' =>
      obtain ⟨p', hp'⟩ := exists_isFirstBroken hfind
      obtain rfl := hp.place_unique hp'
      rw [← hp'.at_eq, hp.at_eq]

end TextOrder

/-- In a tree whose damaged nodes are marked the search finds what one without the marks would find,
and never has to fall back on the root: the broken node that comes first in the text. The text is
accepted just if there is none, and otherwise refused for that node. -/
theorem fault_isFirst {t : SyntaxTree} (h : t.Marked) (src : Source) :
    t.firstBroken? = t.nodes.find? isBroken ∧
      (t.firstBroken?.isSome = true ↔ t.info.damaged = true) ∧
      (t.fault? = none ↔ ∀ p u, t.at? p = some u → u.info.status = .sound) ∧
      (∀ u, t.fault? = some u ↔ ∃ p, t.IsFirstBroken p u) ∧
      (SourceModule.ofTree src t = .ok ⟨src, t⟩ ↔
        ∀ p u, t.at? p = some u → u.info.status = .sound) ∧
      ∀ f, SourceModule.ofTree src t = .error f ↔
        ∃ p u, t.IsFirstBroken p u ∧ f = Fault.ofTree u := by
  have hfault := h.fault?_eq_find?
  refine ⟨h.firstBroken?_eq_find?, h.isSome_firstBroken?_iff, ?_, ?_, ?_, ?_⟩
  . rw [hfault, find?_nodes_eq_none_iff]
  . intro u
    rw [hfault, find?_nodes_eq_some_iff]
  . rw [SourceModule.ofTree, hfault, ← find?_nodes_eq_none_iff]
    cases t.nodes.find? isBroken <;> simp
  . intro f
    simp only [SourceModule.ofTree, hfault, exists_comm, exists_and_right,
      ← find?_nodes_eq_some_iff]
    cases t.nodes.find? isBroken <;> simp [eq_comm]

def twiceBroken : SyntaxTree :=
  node "module" .sound true 0
    [node "pass_statement" .sound false 0 [],
      node "block" .sound true 1
        [node "identifier" .sound false 1 [], node "ERROR" .error true 2 [],
          node ":" .missing true 2 []],
      node ")" .missing true 3 []]
where
  node (kind : String) (status : Status) (damaged : Bool) (row : Nat)
      (children : List SyntaxTree) : SyntaxTree :=
    .node { (default : NodeInfo) with kind, status, damaged, start.row := row } children

theorem fault_isFirst_twiceBroken :
    let error := twiceBroken.node "ERROR" .error true 2 []
    twiceBroken.Marked ∧ twiceBroken.firstBroken? = some error ∧
      (∃ p, twiceBroken.IsFirstBroken p error) ∧
      SourceModule.ofTree (Source.ofString "") twiceBroken = .error (Fault.ofTree error) := by
  intro error
  have hmarked : twiceBroken.Marked := by decide
  have hfind : twiceBroken.nodes.find? isBroken = some error := rfl
  obtain ⟨hsearch, -, -, -, -, hrefused⟩ := fault_isFirst hmarked (Source.ofString "")
  obtain ⟨p, hp⟩ := exists_isFirstBroken hfind
  exact ⟨hmarked, hsearch.trans hfind, ⟨p, hp⟩, (hrefused _).mpr ⟨p, error, hp, rfl⟩⟩

end SyntaxTree

end CodeAppraisal.Parsing
