import CodeAppraisal.Proofs.Parsing.Places

/-!
This module shows that a walk comes to each node of a tree once, in as many steps as there are
nodes. With the children of each node put behind all nodes that wait it goes level by level, so what
it finds is compared with the nodes in the order of the text, which is the simpler one to reason
about.
-/
namespace CodeAppraisal.Parsing

namespace SyntaxTree

mutual

def nodes : SyntaxTree → List SyntaxTree
  | .node i cs => .node i cs :: nodesBelow cs

def nodesBelow : List SyntaxTree → List SyntaxTree
  | [] => []
  | c :: cs => nodes c ++ nodesBelow cs

end

theorem nodesBelow_eq_flatMap (cs : List SyntaxTree) : nodesBelow cs = cs.flatMap nodes := by
  induction cs with
  | nil => rfl
  | cons c cs ih => rw [nodesBelow, ih, List.flatMap_cons]

theorem nodes_eq (t : SyntaxTree) : t.nodes = t :: t.children.flatMap nodes := by
  cases t
  rw [nodes, nodesBelow_eq_flatMap, children]

def height (t : SyntaxTree) : Nat :=
  1 + (t.children.attach.map fun ⟨c, _⟩ => c.height).foldl max 0
termination_by t
decreasing_by exact sizeOf_lt_of_mem ‹_›

theorem height_child {t c : SyntaxTree} (h : c ∈ t.children) : c.height < t.height := by
  have hle : c.height ≤ (t.children.map height).foldr max 0 :=
    List.le_max_of_le (List.mem_map_of_mem h) le_rfl
  rw [height.eq_1 t, List.attach_map_val (f := height), List.foldl_eq_foldr]
  omega

theorem flatMap_nodes_perm (level : List SyntaxTree) :
    (level.flatMap nodes).Perm (level ++ (level.flatMap children).flatMap nodes) := by
  induction level with
  | nil => rfl
  | cons t level ih =>
    rw [List.flatMap_cons, nodes_eq, List.flatMap_cons, List.flatMap_append, List.cons_append,
      List.cons_append]
    apply List.Perm.cons
    exact (ih.append_left _).trans (List.perm_append_comm_assoc _ _ _)

def walkFrom : Nat → List SyntaxTree → List SyntaxTree
  | 0, _ => []
  | depth + 1, level => level ++ walkFrom depth (level.flatMap children)

theorem walkFrom_succ (depth : Nat) (level : List SyntaxTree) :
    walkFrom (depth + 1) level = level ++ walkFrom depth (level.flatMap children) :=
  rfl

theorem height_children_le {depth : Nat} {level : List SyntaxTree}
    (h : ∀ t ∈ level, t.height ≤ depth + 1) : ∀ c ∈ level.flatMap children, c.height ≤ depth := by
  intro c hc
  obtain ⟨t, ht, hc⟩ := List.mem_flatMap.mp hc
  have := height_child hc
  have := h t ht
  omega

theorem eq_nil_of_height_le_zero {level : List SyntaxTree} (h : ∀ t ∈ level, t.height ≤ 0) :
    level = [] := by
  cases level with
  | nil => rfl
  | cons t level =>
    have := h t List.mem_cons_self
    rw [height.eq_1] at this
    omega

theorem walkFrom_perm {depth : Nat} {level : List SyntaxTree}
    (h : ∀ t ∈ level, t.height ≤ depth) : (walkFrom depth level).Perm (level.flatMap nodes) := by
  induction depth generalizing level with
  | zero =>
    rw [eq_nil_of_height_le_zero h]
    rfl
  | succ depth ih =>
    rw [walkFrom_succ]
    exact ((ih (height_children_le h)).append_left _).trans (flatMap_nodes_perm _).symm

namespace Walk

variable {w w' : Walk} {t : SyntaxTree} {rest level later : List SyntaxTree} {n : Nat}

def after (w : Walk) : Nat → Option Walk
  | 0 => some w
  | n + 1 => w.step?.bind (·.after n)

theorem exists_step? (h : w.waiting = t :: rest) : ∃ w', w.step? = some w' ∧
    w'.visited = t :: w.visited ∧ w'.waiting = rest ++ t.children := by
  cases hstep : w.step? with
  | none =>
    rw [step?_eq_none_iff, h] at hstep
    cases hstep
  | some w' =>
    obtain ⟨u, rest', hwaiting, hvisited, hwaiting'⟩ := of_step?_eq_some hstep
    rw [h] at hwaiting
    injection hwaiting with htop hrest
    subst htop hrest
    exact ⟨w', rfl, hvisited, hwaiting'⟩

theorem finish_of_step?_eq_none (h : w.step? = none) : w.finish = w.visited.reverse := by
  rw [finish]
  split
  . next hsome =>
    rw [h] at hsome
    cases hsome
  . rfl

theorem finish_of_step?_eq_some (h : w.step? = some w') : w.finish = w'.finish := by
  rw [finish]
  split
  . next hsome =>
    rw [h] at hsome
    injection hsome with heq
    rw [heq]
  . next hnone =>
    rw [h] at hnone
    cases hnone

theorem finish_of_after (h : w.after n = some w') : w.finish = w'.finish := by
  induction n generalizing w with
  | zero =>
    injection h with heq
    rw [heq]
  | succ n ih =>
    obtain ⟨w₁, hstep, hafter⟩ := Option.bind_eq_some_iff.mp h
    rw [finish_of_step?_eq_some hstep, ih hafter]

theorem exists_after (h : w.waiting = level ++ later) : ∃ w', w.after level.length = some w' ∧
    w'.visited = level.reverse ++ w.visited ∧ w'.waiting = later ++ level.flatMap children := by
  induction level generalizing w later with
  | nil => exact ⟨w, rfl, rfl, by simp [h]⟩
  | cons t level ih =>
    rw [List.cons_append] at h
    obtain ⟨w₁, hstep, hvisited, hwaiting⟩ := exists_step? h
    rw [List.append_assoc] at hwaiting
    obtain ⟨w', hafter, hvisited', hwaiting'⟩ := ih hwaiting
    refine ⟨w', ?_, ?_, ?_⟩
    . rw [List.length_cons, after, hstep, Option.bind_some, hafter]
    . rw [hvisited', hvisited, List.reverse_cons, List.append_assoc, List.singleton_append]
    . rw [hwaiting', List.flatMap_cons, List.append_assoc]

theorem finish_eq_walkFrom {depth : Nat} (h : ∀ t ∈ w.waiting, t.height ≤ depth) :
    w.finish = w.visited.reverse ++ walkFrom depth w.waiting := by
  induction depth generalizing w with
  | zero =>
    have hnone := step?_eq_none_iff.mpr (eq_nil_of_height_le_zero h)
    rw [finish_of_step?_eq_none hnone, walkFrom, List.append_nil]
  | succ depth ih =>
    obtain ⟨w', hafter, hvisited, hwaiting⟩ := exists_after (List.append_nil w.waiting).symm
    rw [List.nil_append] at hwaiting
    have hbelow : ∀ c ∈ w'.waiting, c.height ≤ depth := by
      rw [hwaiting]
      exact height_children_le h
    rw [finish_of_after hafter, ih hbelow, hvisited, hwaiting, List.reverse_append,
      List.reverse_reverse, List.append_assoc, walkFrom_succ]

theorem length_visited_of_after (h : w.after n = some w') :
    w'.visited.length = w.visited.length + n := by
  induction n generalizing w with
  | zero =>
    injection h with heq
    rw [heq, Nat.add_zero]
  | succ n ih =>
    obtain ⟨w₁, hstep, hafter⟩ := Option.bind_eq_some_iff.mp h
    obtain ⟨t, rest, -, hvisited, -⟩ := of_step?_eq_some hstep
    rw [ih hafter, hvisited, List.length_cons]
    omega

theorem visited_prefix_finish (w : Walk) : w.visited.reverse <+: w.finish := by
  induction w using finish.induct with
  | case1 w w' hstep ih =>
    obtain ⟨t, rest, -, hvisited, -⟩ := of_step?_eq_some hstep
    rw [hvisited, List.reverse_cons] at ih
    rw [finish_of_step?_eq_some hstep]
    exact (List.prefix_append _ _).trans ih
  | case2 w hstep =>
    rw [finish_of_step?_eq_none hstep]

theorem isSome_after_iff :
    (w.after n).isSome = true ↔ w.visited.length + n ≤ w.finish.length := by
  induction n generalizing w with
  | zero => simpa [after] using (visited_prefix_finish w).length_le
  | succ n ih =>
    cases hstep : w.step? with
    | none =>
      rw [finish_of_step?_eq_none hstep, List.length_reverse]
      simp [after, hstep]
    | some w' =>
      obtain ⟨t, rest, -, hvisited, -⟩ := of_step?_eq_some hstep
      rw [after, hstep, Option.bind_some, ih, finish_of_step?_eq_some hstep, hvisited,
        List.length_cons, Nat.add_right_comm, Nat.add_assoc]

/-- The nodes that a walk has come to and then those that wait are its root and the children of the
nodes that it has come to, in turn. -/
def Serves (w : Walk) (t : SyntaxTree) : Prop :=
  w.visited.reverse ++ w.waiting = t :: w.visited.reverse.flatMap children

theorem start_serves (t : SyntaxTree) : (start t).Serves t :=
  rfl

theorem Serves.step (h : w.Serves t) (hstep : w.step? = some w') : w'.Serves t := by
  obtain ⟨u, rest, hwaiting, hvisited, hwaiting'⟩ := of_step?_eq_some hstep
  unfold Serves at h ⊢
  rw [hwaiting] at h
  rw [hvisited, hwaiting', List.reverse_cons, List.flatMap_append, ← List.cons_append, ← h]
  simp

theorem Serves.after (h : w.Serves t) (hafter : w.after n = some w') : w'.Serves t := by
  induction n generalizing w with
  | zero =>
    injection hafter with heq
    rwa [← heq]
  | succ n ih =>
    obtain ⟨w₁, hstep, hafter⟩ := Option.bind_eq_some_iff.mp hafter
    exact ih (h.step hstep) hafter

theorem after_start (t : SyntaxTree) (n : Nat) :
    ((start t).after n).map (fun w => (w.visited.reverse, w.waiting)) =
      if n ≤ t.walk.length then
        some (t.walk.take n, (t :: (t.walk.take n).flatMap children).drop n) else none := by
  have hsome : ((start t).after n).isSome = true ↔ n ≤ t.walk.length := by
    simpa [start, walk] using isSome_after_iff (w := start t) (n := n)
  cases hafter : (start t).after n with
  | none =>
    rw [hafter] at hsome
    rw [if_neg (by simpa using hsome)]
    rfl
  | some w =>
    rw [hafter] at hsome
    have hlength : w.visited.reverse.length = n := by
      simpa [start] using length_visited_of_after hafter
    have hvisited : w.visited.reverse = t.walk.take n := by
      have hprefix := visited_prefix_finish w
      rw [← finish_of_after hafter, List.prefix_iff_eq_take, hlength] at hprefix
      exact hprefix
    have hwaiting : w.waiting = (t :: (t.walk.take n).flatMap children).drop n := by
      have hserves := (start_serves t).after hafter
      unfold Serves at hserves
      rw [← hvisited, ← hserves, List.drop_left' hlength]
    rw [if_pos (hsome.mp rfl), Option.map_some, hvisited, hwaiting]

end Walk

theorem walk_eq_walkFrom (t : SyntaxTree) : t.walk = walkFrom t.height [t] := by
  have hroot : ∀ u ∈ (Walk.start t).waiting, u.height ≤ t.height := by
    intro u hu
    rw [List.mem_singleton.mp hu]
  exact Walk.finish_eq_walkFrom hroot

theorem walk_perm (t : SyntaxTree) : t.walk.Perm t.nodes := by
  have hroot : ∀ u ∈ [t], u.height ≤ t.height := by simp
  simpa [walk_eq_walkFrom] using walkFrom_perm hroot

theorem forall_mem_walk {P : SyntaxTree → Prop} {t : SyntaxTree} :
    (∀ u ∈ t.walk, P u) ↔ P t ∧ ∀ c ∈ t.children, ∀ u ∈ c.walk, P u := by
  simp only [(walk_perm _).mem_iff]
  rw [nodes_eq, List.forall_mem_cons, List.forall_mem_flatMap]

theorem countP_walk (p : SyntaxTree → Bool) (t : SyntaxTree) :
    t.walk.countP p = (p t).toNat + (t.children.map (·.walk.countP p)).sum := by
  simp only [(walk_perm _).countP_eq]
  rw [nodes_eq, List.countP_cons, List.countP_flatMap, Nat.add_comm]
  cases p t <;> rfl

theorem mem_nodes_of_at? {t u : SyntaxTree} {p : Place} (h : t.at? p = some u) : u ∈ t.nodes := by
  induction p generalizing t with
  | nil =>
    obtain rfl := Option.some.inj h
    rw [nodes_eq]
    exact List.mem_cons_self
  | cons i p ih =>
    rw [at?_cons] at h
    obtain ⟨c, hc, h⟩ := Option.bind_eq_some_iff.mp h
    rw [nodes_eq]
    exact List.mem_cons_of_mem _ (List.mem_flatMap.mpr ⟨c, List.mem_of_getElem? hc, ih h⟩)

theorem mem_walk_of_at? {t u : SyntaxTree} {p : Place} (h : t.at? p = some u) : u ∈ t.walk :=
  (walk_perm t).mem_iff.mpr (mem_nodes_of_at? h)

end SyntaxTree

end CodeAppraisal.Parsing
