import CodeAppraisal.Proofs.Parsing.DocumentOrder

/-!
This module says in which order a walk comes to the places of a tree: level by level, each level in
the order of the text. As lists of numbers, places are in that order when shorter ones come first
and those of one length are in lexicographic order.
-/
namespace CodeAppraisal.Parsing

abbrev Place.Before : Place → Place → Prop := List.Shortlex (· < ·)

namespace SyntaxTree

def level (t : SyntaxTree) (n : Nat) : List Place := inOrder {p ∈ t.places | p.length = n}

def walkPlaces (t : SyntaxTree) : List Place := (List.range t.height).flatMap t.level

def childPlaces (t : SyntaxTree) (p : Place) : List Place :=
  (List.range ((t.at? p).elim 0 (·.children.length))).map fun i => p ++ [i]

section LevelOrder

variable {t c : SyntaxTree} {n : Nat} {p q : Place} {us : List SyntaxTree}

@[simp]
theorem mem_level : p ∈ t.level n ↔ p ∈ t.places ∧ p.length = n := by
  simp [level]

theorem level_pairwise (t : SyntaxTree) (n : Nat) : (t.level n).Pairwise (· < ·) :=
  inOrder_pairwise _

@[simp]
theorem level_zero (t : SyntaxTree) : t.level 0 = [[]] := by
  apply inOrder_eq
  . exact List.pairwise_singleton _ _
  . intro p
    cases p <;> simp

theorem mem_childPlaces : q ∈ t.childPlaces p ↔ ∃ i, q = p ++ [i] ∧ q ∈ t.places := by
  simp only [childPlaces, List.mem_map, List.mem_range]
  cases hat : t.at? p with
  | none =>
    suffices ∀ i, q = p ++ [i] → q ∉ t.places by simpa
    rintro i rfl hplace
    simp [mem_places, at?_append, hat] at hplace
  | some c =>
    constructor
    . rintro ⟨i, hi, rfl⟩
      refine ⟨i, rfl, ?_⟩
      simpa [mem_places, at?_append, hat] using hi
    . rintro ⟨i, rfl, hplace⟩
      refine ⟨i, ?_, rfl⟩
      simpa [mem_places, at?_append, hat] using hplace

theorem map_at?_childPlaces (h : t.at? p = some c) :
    (t.childPlaces p).map t.at? = c.children.map some := by
  apply List.ext_getElem
  . simp [childPlaces, h]
  . intro i hi _
    simp [childPlaces, h, at?_append]

theorem map_flatMap_childPlaces {ps : List Place} (h : ps.map t.at? = us.map some) :
    (ps.flatMap t.childPlaces).map t.at? = (us.flatMap children).map some := by
  induction ps generalizing us with
  | nil => simp [List.map_eq_nil_iff.mp h.symm]
  | cons p ps ih =>
    cases us with
    | nil => cases h
    | cons u us =>
      injection h with hp hps
      rw [List.flatMap_cons, List.map_append, map_at?_childPlaces hp, ih hps, List.flatMap_cons,
        List.map_append]

theorem mem_places_of_append (h : p ++ q ∈ t.places) : p ∈ t.places := by
  rw [mem_places, at?_append] at h
  rw [mem_places]
  cases hat : t.at? p with
  | none => simp [hat] at h
  | some c => rfl

theorem level_succ (t : SyntaxTree) (n : Nat) :
    t.level (n + 1) = (t.level n).flatMap t.childPlaces := by
  apply inOrder_eq
  . rw [List.pairwise_flatMap]
    constructor
    . intro p _
      apply List.pairwise_map.mpr
      refine List.pairwise_lt_range.imp ?_
      intro i j hij
      exact append_lt_append.mpr (List.cons_lt_cons_iff.mpr (.inl hij))
    . refine (level_pairwise t n).imp_of_mem ?_
      intro p q hp hq hlt p' hp' q' hq'
      -- two places of one level are equally long, so neither is on the way to the other
      have hapart : ¬ p <+: q := by
        intro hpq
        have hlength := (mem_level.mp hp).2.trans (mem_level.mp hq).2.symm
        exact hlt.ne (hpq.eq_of_length hlength)
      obtain ⟨i, rfl, _⟩ := mem_childPlaces.mp hp'
      obtain ⟨j, rfl, _⟩ := mem_childPlaces.mp hq'
      exact append_lt_append_of_apart hlt hapart [i] [j]
  . intro q
    simp only [List.mem_flatMap, mem_level, mem_childPlaces, Finset.mem_filter]
    constructor
    . rintro ⟨p, ⟨_, hlength⟩, i, rfl, hq⟩
      exact ⟨hq, by simp [hlength]⟩
    . rintro ⟨hq, hlength⟩
      obtain rfl | ⟨p, i, rfl⟩ := List.eq_nil_or_concat' q
      . cases hlength
      . exact ⟨p, ⟨mem_places_of_append hq, by simpa using hlength⟩, i, rfl, hq⟩

theorem length_lt_height (h : p ∈ t.places) : p.length < t.height := by
  induction p generalizing t with
  | nil =>
    rw [height.eq_1]
    exact Nat.add_pos_left Nat.one_pos _
  | cons i p ih =>
    obtain ⟨c, hc, hp⟩ := cons_mem_places.mp h
    have := height_child (List.mem_of_getElem? hc)
    have := ih hp
    rw [List.length_cons]
    omega

@[simp]
theorem mem_walkPlaces : p ∈ t.walkPlaces ↔ p ∈ t.places := by
  simp only [walkPlaces, List.mem_flatMap, List.mem_range, mem_level]
  constructor
  . rintro ⟨n, _, hp, _⟩
    exact hp
  . intro hp
    exact ⟨p.length, length_lt_height hp, hp, rfl⟩

theorem walkPlaces_pairwise (t : SyntaxTree) : t.walkPlaces.Pairwise Place.Before := by
  rw [walkPlaces, List.pairwise_flatMap]
  constructor
  . intro n _
    refine (level_pairwise t n).imp_of_mem ?_
    intro p q hp hq hlt
    exact .of_lex ((mem_level.mp hp).2.trans (mem_level.mp hq).2.symm) hlt
  . refine List.pairwise_lt_range.imp ?_
    intro n m hnm p hp q hq
    apply List.Shortlex.of_length_lt
    rwa [(mem_level.mp hp).2, (mem_level.mp hq).2]

theorem map_walkFrom (depth : Nat) (h : (t.level n).map t.at? = us.map some) :
    ((List.range' n depth).flatMap t.level).map t.at? = (walkFrom depth us).map some := by
  induction depth generalizing n us with
  | zero => simp [walkFrom]
  | succ depth ih =>
    have hnext : (t.level (n + 1)).map t.at? = (us.flatMap children).map some := by
      rw [level_succ]
      exact map_flatMap_childPlaces h
    rw [List.range'_succ, List.flatMap_cons, List.map_append, h, ih hnext, walkFrom_succ,
      List.map_append]

theorem map_at?_walkPlaces (t : SyntaxTree) : t.walkPlaces.map t.at? = t.walk.map some := by
  rw [walkPlaces, List.range_eq_range', walk_eq_walkFrom]
  exact map_walkFrom t.height (by simp)

theorem walkPlaces_nodup (t : SyntaxTree) : t.walkPlaces.Nodup :=
  (walkPlaces_pairwise t).imp ne_of_irrefl

theorem length_walk (t : SyntaxTree) : t.walk.length = t.places.card := by
  have hplaces : t.walkPlaces.toFinset = t.places := by
    ext p
    rw [List.mem_toFinset, mem_walkPlaces]
  have hlength := congrArg List.length (map_at?_walkPlaces t)
  rw [List.length_map, List.length_map] at hlength
  rw [← hlength, ← List.toFinset_card_of_nodup (walkPlaces_nodup t), hplaces]

theorem pair_sublist {ps : List Place} (hps : ps.Pairwise Place.Before) (hp : p ∈ ps) (hq : q ∈ ps)
    (h : p.Before q) : [p, q].Sublist ps := by
  obtain ⟨before, after, rfl⟩ := List.append_of_mem hp
  rw [List.pairwise_append] at hps
  have hafter : q ∈ after := by
    rw [List.mem_append, List.mem_cons] at hq
    obtain hq | rfl | hq := hq
    . exact absurd (hps.2.2 q hq p List.mem_cons_self) (asymm h)
    . exact absurd h (irrefl q)
    . exact hq
  refine List.Sublist.trans ?_ (List.sublist_append_right before _)
  exact (List.singleton_sublist.mpr hafter).cons_cons p

/-- A walk comes to all places of a tree, each once: level by level from the root down, each level
in the order of the text, so to no node before the one above it. It ends after as many steps as
there are nodes, and until then the children of the nodes that it has come to wait in turn. -/
theorem walk_inLevelOrder (t : SyntaxTree) :
    let order := (List.range t.height).flatMap t.level
    (∀ n, (t.level n).Pairwise (· < ·) ∧ ∀ p, p ∈ t.level n ↔ p ∈ t.places ∧ p.length = n) ∧
      order.map t.at? = t.walk.map some ∧ order.Nodup ∧ (∀ p, p ∈ order ↔ p ∈ t.places) ∧
      (∀ p i, p ++ [i] ∈ t.places → [p, p ++ [i]].Sublist order) ∧
      ∀ n, ((Walk.start t).after n).map (fun w => (w.visited.reverse, w.waiting)) =
        if n ≤ t.places.card then
          some (t.walk.take n, (t :: (t.walk.take n).flatMap children).drop n) else none := by
  intro order
  refine ⟨?_, map_at?_walkPlaces t, walkPlaces_nodup t, fun p => mem_walkPlaces, ?_, ?_⟩
  . intro n
    exact ⟨level_pairwise t n, fun p => mem_level⟩
  . intro p i hchild
    apply pair_sublist (walkPlaces_pairwise t)
    . exact mem_walkPlaces.mpr (mem_places_of_append hchild)
    . exact mem_walkPlaces.mpr hchild
    . apply List.Shortlex.of_length_lt
      simp
  . intro n
    rw [← length_walk]
    exact Walk.after_start t n

def twinLeaves : SyntaxTree :=
  .node { (default : NodeInfo) with kind := "module" } [.node default [leaf], leaf]
where
  leaf : SyntaxTree := .node default []

theorem walk_inLevelOrder_twinLeaves :
    [0] ++ [0] ∈ twinLeaves.places ∧
      [[0], [0, 0]].Sublist ((List.range twinLeaves.height).flatMap twinLeaves.level) ∧
      ((Walk.start twinLeaves).after 4).isSome = true ∧ (Walk.start twinLeaves).after 5 = none := by
  have hplace : [0] ++ [0] ∈ twinLeaves.places := by decide
  have hcard : twinLeaves.places.card = 4 := by decide
  obtain ⟨-, -, -, -, hparent, hsteps⟩ := walk_inLevelOrder twinLeaves
  rw [hcard] at hsteps
  refine ⟨hplace, hparent [0] 0 hplace, ?_, ?_⟩
  . have hlast := hsteps 4
    rw [if_pos le_rfl] at hlast
    rw [← Option.isSome_map, hlast]
    rfl
  . have hover := hsteps 5
    rw [if_neg (by decide)] at hover
    exact Option.map_eq_none_iff.mp hover

end LevelOrder

end SyntaxTree

end CodeAppraisal.Parsing
