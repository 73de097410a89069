import CodeAppraisal.Smell.ManyParameters

/-!
This module shows which parameters of a function are counted: in a list that is written as the
language has it, those behind a `/` and before a `*` or what stands for one.
-/
namespace CodeAppraisal

open Parsing SyntaxTree

inductive IsOrdinary (t : SyntaxTree) : Prop where
  | plain (h : t.kind = "identifier")
  | defaulted (h : t.kind = "default_parameter")
  | typed (h : t.kind = "typed_parameter") (hname : ∀ c ∈ t.namedChildren, isSplat c = false)
  | typedDefault (h : t.kind = "typed_default_parameter")

inductive IsStar (t : SyntaxTree) : Prop where
  | bare (h : t.kind = "keyword_separator")
  | places (h : t.kind = "list_splat_pattern")
  | names (h : t.kind = "dictionary_splat_pattern")
  | typed (h : t.kind = "typed_parameter") (hsplat : ∃ c ∈ t.namedChildren, isSplat c = true)

inductive IsRest : List SyntaxTree → Prop where
  | nil : IsRest []
  | star {t : SyntaxTree} {ts : List SyntaxTree} (h : IsStar t) : IsRest (t :: ts)

inductive HasPositional (positional : List SyntaxTree) : List SyntaxTree → Prop where
  | first {rest : List SyntaxTree} (hpositional : ∀ t ∈ positional, IsOrdinary t)
      (hrest : IsRest rest) : HasPositional positional (positional ++ rest)
  | behindSlash {only rest : List SyntaxTree} {slash : SyntaxTree}
      (honly : ∀ t ∈ only, IsOrdinary t) (hslash : slash.kind = "positional_separator")
      (hpositional : ∀ t ∈ positional, IsOrdinary t) (hrest : IsRest rest) :
      HasPositional positional (only ++ slash :: (positional ++ rest))

def isBetween (t : SyntaxTree) : Bool := t.kind == "comment" || t.kind == "line_continuation"

def parametersOf (ps : SyntaxTree) : List SyntaxTree := ps.namedChildren.filter (!isBetween ·)

section Counting

variable {t : SyntaxTree} {ts : List SyntaxTree}

theorem ofTree_of_isOrdinary (h : IsOrdinary t) : ParameterKind.ofTree t = .positional := by
  cases h with
  | typed h hname =>
    have hnone : t.namedChildren.any isSplat = false := by simpa using hname
    simp [ParameterKind.ofTree, h, hnone]
  | _ h => simp [ParameterKind.ofTree, h]

theorem ofTree_of_isStar (h : IsStar t) : ParameterKind.ofTree t = .star := by
  cases h with
  | typed h hsplat =>
    have hany : t.namedChildren.any isSplat = true := by simpa using hsplat
    simp [ParameterKind.ofTree, h, hany]
  | _ h => simp [ParameterKind.ofTree, h]

theorem ofTree_of_isBetween (h : isBetween t) : ParameterKind.ofTree t = .other := by
  simp only [isBetween, Bool.or_eq_true, beq_iff_eq] at h
  obtain h | h := h <;> simp [ParameterKind.ofTree, h]

theorem countPositional_filter (count : Nat) (ts : List SyntaxTree) :
    countPositional count ((ts.filter (!isBetween ·)).map ParameterKind.ofTree) =
      countPositional count (ts.map ParameterKind.ofTree) := by
  induction ts generalizing count with
  | nil => rfl
  | cons t ts ih =>
    rw [List.filter_cons, List.map_cons]
    split
    . rw [List.map_cons]
      cases ParameterKind.ofTree t <;> simp only [countPositional, ih]
    . next h =>
      rw [ofTree_of_isBetween (by simpa using h), countPositional, ih]

theorem countPositional_append (count : Nat) (h : ∀ t ∈ ts, IsOrdinary t)
    (rest : List ParameterKind) :
    countPositional count (ts.map ParameterKind.ofTree ++ rest) =
      countPositional (count + ts.length) rest := by
  induction ts generalizing count with
  | nil => rfl
  | cons t ts ih =>
    rw [List.forall_mem_cons] at h
    rw [List.map_cons, List.cons_append, ofTree_of_isOrdinary h.1, countPositional, ih _ h.2,
      List.length_cons, Nat.add_assoc, Nat.add_comm 1]

theorem countPositional_rest (count : Nat) (h : IsRest ts) :
    countPositional count (ts.map ParameterKind.ofTree) = count := by
  cases h with
  | nil => rfl
  | star h => rw [List.map_cons, ofTree_of_isStar h, countPositional]

theorem countPositional_of_hasPositional {positional : List SyntaxTree}
    (h : HasPositional positional ts) :
    countPositional 0 (ts.map ParameterKind.ofTree) = positional.length := by
  cases h with
  | first hpositional hrest =>
    rw [List.map_append, countPositional_append 0 hpositional, countPositional_rest _ hrest,
      Nat.zero_add]
  | @behindSlash only rest slash honly hslash hpositional hrest =>
    have hkind : ParameterKind.ofTree slash = .slash := by simp [ParameterKind.ofTree, hslash]
    rw [List.map_append, countPositional_append 0 honly, List.map_cons, hkind, countPositional,
      List.map_append, countPositional_append 0 hpositional, countPositional_rest _ hrest,
      Nat.zero_add]

theorem positionalParameters_of_list {ps : SyntaxTree} {positional : List SyntaxTree}
    (hps : t.child? "parameters" = some ps) (h : HasPositional positional (parametersOf ps)) :
    positionalParameters t = positional.length := by
  rw [← countPositional_of_hasPositional h, parametersOf, countPositional_filter,
    positionalParameters, hps]

/-- The function `def f(a, b: int, /, c=1, d: int=2, *args: int, e)` with a comment behind the `/`.
Most of its words are left out. -/
def commentedList : SyntaxTree :=
  word "function_definition" true none
    [word "parameters" true "parameters"
      ([sign "("] ++ only ++ [sign ",", slash, sign ",", word "comment" true none []] ++
        positional ++ rest ++ [sign ")"])]
where
  word (kind : String) (named : Bool) (field : Option String) (children : List SyntaxTree) :
      SyntaxTree :=
    .node { (default : NodeInfo) with kind, named, field } children
  sign (kind : String) : SyntaxTree := word kind false none []
  name : SyntaxTree := word "identifier" true none []
  only : List SyntaxTree :=
    [name, word "typed_parameter" true none [name, word "type" true none []]]
  slash : SyntaxTree := word "positional_separator" true none []
  positional : List SyntaxTree :=
    [word "default_parameter" true none [], word "typed_default_parameter" true none []]
  rest : List SyntaxTree :=
    [word "typed_parameter" true none [word "list_splat_pattern" true none [name]], name]

theorem positionalParameters_of_list_commented : ∃ ps, commentedList.child? "parameters" = some ps ∧
    HasPositional commentedList.positional (parametersOf ps) ∧
      positionalParameters commentedList = 2 := by
  have honly : ∀ t ∈ commentedList.only, IsOrdinary t := by
    simp only [commentedList.only, List.forall_mem_cons]
    exact ⟨.plain rfl, .typed rfl (by decide), List.forall_mem_nil _⟩
  have hpositional : ∀ t ∈ commentedList.positional, IsOrdinary t := by
    simp only [commentedList.positional, List.forall_mem_cons]
    exact ⟨.defaulted rfl, .typedDefault rfl, List.forall_mem_nil _⟩
  have hrest : IsRest commentedList.rest := .star (.typed rfl ⟨_, List.mem_singleton_self _, rfl⟩)
  have hlist : HasPositional commentedList.positional
      (commentedList.only ++ commentedList.slash ::
        (commentedList.positional ++ commentedList.rest)) :=
    .behindSlash honly rfl hpositional hrest
  have hcount : positionalParameters commentedList = commentedList.positional.length :=
    positionalParameters_of_list rfl hlist
  exact ⟨_, rfl, hlist, hcount⟩

end Counting

end CodeAppraisal
