import CodeAppraisal.Proofs.Parsing.Walk
import CodeAppraisal.Smell.LongFunction

/-!
This module shows how far the code of a function goes: to the last leaf that is not in a comment.
Comments behind that leaf, in whichever block they stand, do not matter.
-/
namespace CodeAppraisal

open Parsing SyntaxTree

structure IsCodeLeaf (t : SyntaxTree) (p : Place) (leaf : SyntaxTree) : Prop where
  at_eq : t.at? p = some leaf
  children_eq : leaf.children = []
  not_comment : ∀ q, q <+: p → ∀ u, t.at? q = some u → u.kind ≠ "comment"

structure IsLastCodeLeaf (t : SyntaxTree) (p : Place) (leaf : SyntaxTree) : Prop
    extends IsCodeLeaf t p leaf where
  le : ∀ q u, IsCodeLeaf t q u → q ≤ p

def RowsNest (t : SyntaxTree) : Prop :=
  ∀ u ∈ t.walk, u.start.row ≤ u.stop.row ∧
    ∀ c ∈ u.children, u.start.row ≤ c.start.row ∧ c.stop.row ≤ u.stop.row

def HoldsCode (t : SyntaxTree) : Prop :=
  ∀ u ∈ t.walk, u.kind ≠ "comment" → u.children ≠ [] → ∃ c ∈ u.children, c.kind ≠ "comment"

/-- A tree with other comments behind the last code of some of its nodes, which may make these nodes
reach further. -/
inductive Trailed : SyntaxTree → SyntaxTree → Prop where
  | refl (t : SyntaxTree) : Trailed t t
  | node {info info' : NodeInfo} {before comments comments' : List SyntaxTree} {c c' : SyntaxTree}
      (hkind : info'.kind = info.kind) (hstart : info'.start = info.start)
      (hcode : c.kind ≠ "comment") (h : Trailed c c')
      (hcomments : ∀ d ∈ comments, d.kind = "comment")
      (hcomments' : ∀ d ∈ comments', d.kind = "comment") :
      Trailed (.node info (before ++ c :: comments)) (.node info' (before ++ c' :: comments'))

def lastCode? (t : SyntaxTree) : Option SyntaxTree :=
  (t.children.filter (·.kind != "comment")).getLast?

section LastCode

variable {t c : SyntaxTree}

theorem lastCodeRow_eq (t : SyntaxTree) :
    lastCodeRow t = (lastCode? t).elim t.stop.row lastCodeRow := by
  rw [lastCodeRow.eq_1, lastCode?]
  split <;> simp [*]

theorem lastCode?_eq_some_iff : lastCode? t = some c ↔
    ∃ before comments, t.children = before ++ c :: comments ∧ c.kind ≠ "comment" ∧
      ∀ d ∈ comments, d.kind = "comment" := by
  rw [lastCode?, List.getLast?_filter, List.find?_eq_some_iff_append]
  constructor
  . rintro ⟨hc, as, bs, hrev, has⟩
    refine ⟨bs.reverse, as.reverse, ?_, by simpa using hc, ?_⟩
    . simpa using congrArg List.reverse hrev
    . simpa using has
  . rintro ⟨before, comments, heq, hc, hcomments⟩
    refine ⟨by simpa using hc, comments.reverse, before.reverse, by simp [heq], ?_⟩
    simpa using hcomments

theorem lastCode?_eq_none_iff : lastCode? t = none ↔ ∀ c ∈ t.children, c.kind = "comment" := by
  rw [lastCode?, List.getLast?_eq_none_iff, List.filter_eq_nil_iff]
  simp

theorem mem_of_lastCode? (h : lastCode? t = some c) : c ∈ t.children := by
  obtain ⟨before, comments, heq, _⟩ := lastCode?_eq_some_iff.mp h
  simp [heq]

end LastCode

section CodeLeaf

variable {t c leaf leaf' : SyntaxTree} {i : Nat} {p p' : Place}

theorem isCodeLeaf_nil (hkind : t.kind ≠ "comment") (hchildren : t.children = []) :
    IsCodeLeaf t [] t where
  at_eq := at?_nil t
  children_eq := hchildren
  not_comment q hq u hu := by
    obtain rfl := List.prefix_nil.mp hq
    obtain rfl := Option.some.inj ((at?_nil t).symm.trans hu)
    exact hkind

theorem IsCodeLeaf.cons (hkind : t.kind ≠ "comment") (hc : t.children[i]? = some c)
    (h : IsCodeLeaf c p leaf) : IsCodeLeaf t (i :: p) leaf where
  at_eq := by rw [at?_cons, hc, Option.bind_some, h.at_eq]
  children_eq := h.children_eq
  not_comment q hq u hu := by
    obtain rfl | ⟨q, rfl, hprefix⟩ := List.prefix_cons_iff.mp hq
    . obtain rfl := Option.some.inj ((at?_nil t).symm.trans hu)
      exact hkind
    . rw [at?_cons, hc, Option.bind_some] at hu
      exact h.not_comment q hprefix u hu

theorem IsCodeLeaf.exists_child (h : IsCodeLeaf t (i :: p) leaf) :
    ∃ c, t.children[i]? = some c ∧ c.kind ≠ "comment" ∧ IsCodeLeaf c p leaf := by
  have hat := h.at_eq
  rw [at?_cons] at hat
  obtain ⟨c, hc, hleaf⟩ := Option.bind_eq_some_iff.mp hat
  have hbelow : ∀ q, t.at? (i :: q) = c.at? q := by
    intro q
    rw [at?_cons, hc, Option.bind_some]
  refine ⟨c, hc, ?_, hleaf, h.children_eq, ?_⟩
  . exact h.not_comment [i] (by simp) c (by simp [hc])
  . intro q hq u hu
    exact h.not_comment (i :: q) (List.cons_prefix_cons.mpr ⟨rfl, hq⟩) u ((hbelow q).trans hu)

theorem isLastCodeLeaf_nil (hkind : t.kind ≠ "comment") (hchildren : t.children = []) :
    IsLastCodeLeaf t [] t where
  toIsCodeLeaf := isCodeLeaf_nil hkind hchildren
  le q u hu := by
    cases q with
    | nil => exact le_rfl
    | cons i q =>
      obtain ⟨c, hc, _⟩ := hu.exists_child
      simp [hchildren] at hc

theorem IsLastCodeLeaf.unique (h : IsLastCodeLeaf t p leaf) (h' : IsLastCodeLeaf t p' leaf') :
    leaf = leaf' := by
  obtain rfl := le_antisymm (h'.le p leaf h.toIsCodeLeaf) (h.le p' leaf' h'.toIsCodeLeaf)
  exact Option.some.inj (h.at_eq.symm.trans h'.at_eq)

theorem IsLastCodeLeaf.cons (hkind : t.kind ≠ "comment") {before comments : List SyntaxTree}
    (heq : t.children = before ++ c :: comments) (hcomments : ∀ d ∈ comments, d.kind = "comment")
    (h : IsLastCodeLeaf c p leaf) : IsLastCodeLeaf t (before.length :: p) leaf where
  toIsCodeLeaf := h.toIsCodeLeaf.cons hkind (by simp [heq])
  le q u hu := by
    cases q with
    | nil => exact le_of_not_gt (List.not_lt_nil _)
    | cons j q =>
      obtain ⟨d, hd, hdkind, hu⟩ := hu.exists_child
      obtain hlt | rfl | hgt := lt_trichotomy j before.length
      . exact le_of_lt (List.cons_lt_cons_iff.mpr (.inl hlt))
      . obtain rfl : c = d := by simpa [heq] using hd
        obtain hlt | rfl := (h.le q u hu).lt_or_eq
        . exact le_of_lt (List.cons_lt_cons_iff.mpr (.inr ⟨rfl, hlt⟩))
        . exact le_rfl
      . -- behind the last child with code there are just comments
        rw [heq, List.getElem?_append_right hgt.le, List.getElem?_cons,
          if_neg (Nat.sub_ne_zero_of_lt hgt)] at hd
        exact absurd (hcomments d (List.mem_of_getElem? hd)) hdkind

theorem HoldsCode.child (h : HoldsCode t) (hc : c ∈ t.children) : HoldsCode c :=
  (forall_mem_walk.mp h).2 c hc

theorem exists_lastCodeLeaf (hkind : t.kind ≠ "comment") (hcode : HoldsCode t) :
    ∃ p leaf, IsLastCodeLeaf t p leaf ∧ lastCodeRow t = leaf.stop.row := by
  induction t using SyntaxTree.induction with
  | h t ih =>
    rw [lastCodeRow_eq]
    cases hlast : lastCode? t with
    | none =>
      have hchildren : t.children = [] := by
        by_contra hne
        obtain ⟨c, hc, hckind⟩ := (forall_mem_walk.mp hcode).1 hkind hne
        exact hckind (lastCode?_eq_none_iff.mp hlast c hc)
      exact ⟨[], t, isLastCodeLeaf_nil hkind hchildren, rfl⟩
    | some c =>
      obtain ⟨before, comments, heq, hckind, hcomments⟩ := lastCode?_eq_some_iff.mp hlast
      have hc := mem_of_lastCode? hlast
      obtain ⟨p, leaf, hleaf, hrow⟩ := ih c hc hckind (hcode.child hc)
      exact ⟨_, leaf, hleaf.cons hkind heq hcomments, hrow⟩

end CodeLeaf

section Rows

variable {t t' c : SyntaxTree}

theorem RowsNest.child (h : RowsNest t) (hc : c ∈ t.children) : RowsNest c :=
  (forall_mem_walk.mp h).2 c hc

theorem start_le_lastCodeRow (h : RowsNest t) : t.start.row ≤ lastCodeRow t := by
  induction t using SyntaxTree.induction with
  | h t ih =>
    have hroot := (forall_mem_walk.mp h).1
    rw [lastCodeRow_eq]
    cases hlast : lastCode? t with
    | none => exact hroot.1
    | some c =>
      have hc := mem_of_lastCode? hlast
      calc
        t.start.row ≤ c.start.row := (hroot.2 c hc).1
        _ ≤ lastCodeRow c := ih c hc (h.child hc)

theorem Trailed.kind_eq (h : Trailed t t') : t'.kind = t.kind := by
  cases h with
  | refl => rfl
  | node hkind => exact hkind

theorem Trailed.start_eq (h : Trailed t t') : t'.start = t.start := by
  cases h with
  | refl => rfl
  | node _ hstart => exact hstart

theorem Trailed.isAsync_eq (h : Trailed t t') : t'.isAsync = t.isAsync := by
  cases h with
  | refl => rfl
  | @node _ _ before _ _ _ _ _ _ _ h =>
    cases before with
    | nil => simp [isAsync, children, h.kind_eq]
    | cons b before => rfl

theorem Trailed.lastCodeRow_eq (h : Trailed t t') : lastCodeRow t' = lastCodeRow t := by
  induction h with
  | refl => rfl
  | @node info info' before comments comments' c c' _ _ hcode h hcomments hcomments' ih =>
    have hlast : lastCode? (.node info (before ++ c :: comments)) = some c :=
      lastCode?_eq_some_iff.mpr ⟨before, comments, rfl, hcode, hcomments⟩
    have hlast' : lastCode? (.node info' (before ++ c' :: comments')) = some c' :=
      lastCode?_eq_some_iff.mpr ⟨before, comments', rfl, h.kind_eq.trans_ne hcode, hcomments'⟩
    rw [CodeAppraisal.lastCodeRow_eq, CodeAppraisal.lastCodeRow_eq, hlast, hlast']
    exact ih

theorem Trailed.functionSpan_eq (h : Trailed t t') : functionSpan t' = functionSpan t := by
  rw [functionSpan, functionSpan, h.lastCodeRow_eq, h.start_eq]

end Rows

structure SpansCode (t : SyntaxTree) : Prop where
  exists_last : t.kind ≠ "comment" → ∃ p leaf, IsLastCodeLeaf t p leaf
  lastCodeRow_eq : ∀ p leaf, IsLastCodeLeaf t p leaf → lastCodeRow t = leaf.stop.row
  start_le : t.start.row ≤ lastCodeRow t
  trailed : ∀ t', Trailed t t' → t'.kind = t.kind ∧ t'.isAsync = t.isAsync ∧
    lastCodeRow t' = lastCodeRow t ∧ functionSpan t' = functionSpan t

theorem functionSpan_spansCode {t : SyntaxTree} (hrows : RowsNest t) (hcode : HoldsCode t) :
    SpansCode t := by
  constructor
  case exists_last =>
    intro hkind
    obtain ⟨p, leaf, hleaf, _⟩ := exists_lastCodeLeaf hkind hcode
    exact ⟨p, leaf, hleaf⟩
  case lastCodeRow_eq =>
    intro p leaf hleaf
    have hkind := hleaf.not_comment [] List.nil_prefix t (at?_nil t)
    obtain ⟨p', leaf', hleaf', hrow⟩ := exists_lastCodeLeaf hkind hcode
    rw [hrow, hleaf.unique hleaf']
  case start_le => exact start_le_lastCodeRow hrows
  case trailed =>
    intro t' h
    exact ⟨h.kind_eq, h.isAsync_eq, h.lastCodeRow_eq, h.functionSpan_eq⟩

def commented (comments : List SyntaxTree) : SyntaxTree :=
  node "function_definition" 0 2 [node "def" 0 0 [], block comments]
where
  node (kind : String) (start stop : Nat) (children : List SyntaxTree) : SyntaxTree :=
    .node { (default : NodeInfo) with kind, start.row := start, stop.row := stop } children
  pass : SyntaxTree := node "pass" 1 1 []
  statement : SyntaxTree := node "pass_statement" 1 1 [pass]
  comment (row : Nat) : SyntaxTree := node "comment" row row []
  block (comments : List SyntaxTree) : SyntaxTree :=
    node "block" 1 2 ([] ++ statement :: ([comment 2] ++ comments))

theorem isLastCodeLeaf_commented : IsLastCodeLeaf (commented []) [1, 0, 0] commented.pass := by
  have hpass : IsLastCodeLeaf commented.pass [] commented.pass :=
    isLastCodeLeaf_nil (by decide) rfl
  have hstatement : IsLastCodeLeaf commented.statement [0] commented.pass :=
    hpass.cons (by decide) (show _ = [] ++ commented.pass :: [] from rfl) (by simp)
  have hblock : IsLastCodeLeaf (commented.block []) [0, 0] commented.pass :=
    hstatement.cons (by decide)
      (show _ = [] ++ commented.statement :: [commented.comment 2] from rfl) (by decide)
  exact hblock.cons (by decide)
    (show _ = [commented.node "def" 0 0 []] ++ commented.block [] :: [] from rfl) (by simp)

theorem trailed_commented : Trailed (commented []) (commented [commented.comment 3]) := by
  have hblock : Trailed (commented.block []) (commented.block [commented.comment 3]) :=
    .node rfl rfl (by decide) (.refl _) (by decide) (by decide)
  have hdef : ∀ t, [commented.node "def" 0 0 [], t] = [commented.node "def" 0 0 []] ++ t :: [] :=
    fun _ => rfl
  rw [commented, commented, commented.node, hdef, hdef]
  exact .node rfl rfl (by decide) hblock (by simp) (by simp)

theorem functionSpan_spansCode_commented : RowsNest (commented []) ∧ HoldsCode (commented []) ∧
    lastCodeRow (commented []) = 1 ∧ functionSpan (commented [commented.comment 3]) = 1 := by
  have hrows : RowsNest (commented []) := by
    simp only [RowsNest, (walk_perm _).mem_iff]
    decide +kernel
  have hcode : HoldsCode (commented []) := by
    simp only [HoldsCode, (walk_perm _).mem_iff]
    decide +kernel
  have h := functionSpan_spansCode hrows hcode
  have hrow : lastCodeRow (commented []) = 1 := h.lastCodeRow_eq _ _ isLastCodeLeaf_commented
  refine ⟨hrows, hcode, hrow, ?_⟩
  rw [(h.trailed _ trailed_commented).2.2.2, functionSpan, hrow]
  rfl

end CodeAppraisal
