import CodeAppraisal.Proofs.Parsing.LevelOrder
import CodeAppraisal.Smell.Detect

/-!
This module shows which smells of a module are reported, what a higher limit does to the reports,
and in which order functions are reported.
-/
namespace CodeAppraisal

open Parsing SyntaxTree

def exceeds (measure : SyntaxTree → Nat) (limit : Nat) (t : SyntaxTree) : Bool :=
  t.kind == "function_definition" && !t.isAsync && limit < measure t

def placesOver (measure : SyntaxTree → Nat) (limit : Nat) (root : SyntaxTree) : List Place :=
  root.walkPlaces.filter fun p => (root.at? p).any (exceeds measure limit)

def entriesOver (measure : SyntaxTree → Nat) (entry : String → Nat → Smell) (limit : Nat)
    (m : SourceModule) : List Smell :=
  (m.root.walk.filter (exceeds measure limit)).map fun t => entry (m.nameOf t) (measure t)

structure ReportsEach (m : SourceModule) (measure : SyntaxTree → Nat)
    (entry : String → Nat → Smell) (limit : Nat) (found : List Smell) : Prop where
  entries_stand : List.Forall₂
    (fun p s => ∃ t, m.root.at? p = some t ∧ s = entry (m.nameOf t) (measure t))
    (placesOver measure limit m.root) found
  mem_iff : ∀ p, p ∈ placesOver measure limit m.root ↔ ∃ t, m.root.at? p = some t ∧
    t.kind = "function_definition" ∧ t.isAsync = false ∧ limit < measure t
  ordered : (placesOver measure limit m.root).Pairwise Place.Before
  nodes_ordered :
    ((placesOver measure limit m.root).map m.root.at?).Sublist (m.root.walk.map some)

section Entries

variable {measure : SyntaxTree → Nat} {entry : String → Nat → Smell} {limit limit' : Nat}
  {m : SourceModule} {p q : Place}

theorem exceeds_iff {t : SyntaxTree} : exceeds measure limit t ↔
    t.kind = "function_definition" ∧ t.isAsync = false ∧ limit < measure t := by
  simp [exceeds, and_assoc]

theorem mem_placesOver {root : SyntaxTree} : p ∈ placesOver measure limit root ↔
    ∃ t, root.at? p = some t ∧ t.kind = "function_definition" ∧ t.isAsync = false ∧
      limit < measure t := by
  simp only [placesOver, List.mem_filter, mem_walkPlaces, mem_places, Option.any_eq_true,
    exceeds_iff]
  constructor
  . rintro ⟨_, h⟩
    exact h
  . rintro ⟨t, ht, h⟩
    exact ⟨by simp [ht], t, ht, h⟩

theorem placesOver_pairwise (root : SyntaxTree) :
    (placesOver measure limit root).Pairwise Place.Before :=
  (walkPlaces_pairwise root).filter _

theorem map_at?_placesOver (root : SyntaxTree) : (placesOver measure limit root).map root.at? =
    (root.walk.filter (exceeds measure limit)).map some := by
  have hplaces : (placesOver measure limit root).map root.at? =
      (root.walkPlaces.map root.at?).filter (·.any (exceeds measure limit)) := by
    rw [List.filter_map]
    rfl
  rw [hplaces, map_at?_walkPlaces, List.filter_map]
  rfl

theorem reportsEach_entriesOver :
    ReportsEach m measure entry limit (entriesOver measure entry limit m) := by
  have hnodes : (placesOver measure limit m.root).map m.root.at? =
      (m.root.walk.filter (exceeds measure limit)).map some := map_at?_placesOver m.root
  constructor
  case entries_stand =>
    rw [entriesOver, List.forall₂_map_right_iff]
    refine (forall₂_of_map_eq hnodes).imp ?_
    rintro p t ⟨_, _, ht⟩
    exact ⟨t, ht, rfl⟩
  case mem_iff =>
    intro p
    exact mem_placesOver
  case ordered => exact placesOver_pairwise m.root
  case nodes_ordered =>
    rw [hnodes]
    exact List.filter_sublist.map some

theorem entriesOver_sublist (h : limit ≤ limit') :
    (entriesOver measure entry limit' m).Sublist (entriesOver measure entry limit m) := by
  apply List.Sublist.map
  apply List.monotone_filter_right
  intro t ht
  rw [exceeds_iff] at ht ⊢
  exact ⟨ht.1, ht.2.1, h.trans_lt ht.2.2⟩

theorem entriesOver_eq (m : SourceModule) : entriesOver measure entry limit m =
    (plainFunctions m.root).filterMap fun t =>
      if measure t > limit then some (entry (m.nameOf t) (measure t)) else none := by
  have hover : ∀ fs : List SyntaxTree,
      (fs.filterMap fun t =>
        if measure t > limit then some (entry (m.nameOf t) (measure t)) else none) =
      (fs.filter (limit < measure ·)).map fun t => entry (m.nameOf t) (measure t) := by
    intro fs
    rw [← List.filterMap_eq_map, List.filterMap_filter]
    simp
  rw [hover, entriesOver, plainFunctions, List.filter_filter]
  congr 2
  funext t
  rw [exceeds, Bool.and_comm]

end Entries

theorem longFunctions_eq (limit : Nat) (m : SourceModule) :
    longFunctions limit m = entriesOver functionSpan .longFunction limit m :=
  (entriesOver_eq m).symm

theorem manyParameters_eq (limit : Nat) (m : SourceModule) :
    manyParameters limit m = entriesOver positionalParameters .manyParameters limit m :=
  (entriesOver_eq m).symm

instance : LE SmellThresholds where
  le limits limits' :=
    limits.maxFunctionLines ≤ limits'.maxFunctionLines ∧
      limits.maxParameters ≤ limits'.maxParameters ∧
      limits.maxNestingDepth ≤ limits'.maxNestingDepth

instance (limits limits' : SmellThresholds) : Decidable (limits ≤ limits') :=
  inferInstanceAs (Decidable (_ ∧ _ ∧ _))

structure ReportsSmells (m : SourceModule) (limits : SmellThresholds) (found : List Smell) :
    Prop where
  eq_append : found = longFunctions limits.maxFunctionLines m ++
    manyParameters limits.maxParameters m ++ deepNesting limits.maxNestingDepth m ++ magicNumbers m
  long : ReportsEach m functionSpan .longFunction limits.maxFunctionLines
    (longFunctions limits.maxFunctionLines m)
  many : ReportsEach m positionalParameters .manyParameters limits.maxParameters
    (manyParameters limits.maxParameters m)
  length_nesting_le : (deepNesting limits.maxNestingDepth m).length ≤ 1
  mem_nesting_iff : ∀ s, s ∈ deepNesting limits.maxNestingDepth m ↔
    limits.maxNestingDepth < nestingDepth m.root ∧ s = .deepNesting (nestingDepth m.root)
  length_magic_le : (magicNumbers m).length ≤ 1
  mem_magic_iff : ∀ s, s ∈ magicNumbers m ↔
    hasMagicNumber m.source.chars.toList = true ∧ s = .magicNumbers

section Smells

variable {limits limits' : SmellThresholds}

theorem smells_eq (limits : SmellThresholds) (m : SourceModule) : smells limits m =
    longFunctions limits.maxFunctionLines m ++ manyParameters limits.maxParameters m ++
      deepNesting limits.maxNestingDepth m ++ magicNumbers m := by
  simp [smells, detectors, longFunctionDetector, manyParametersDetector, deepNestingDetector,
    magicNumbersDetector]

theorem deepNesting_eq (limit : Nat) (m : SourceModule) : deepNesting limit m =
    if limit < nestingDepth m.root then [.deepNesting (nestingDepth m.root)] else [] :=
  rfl

theorem mem_deepNesting {limit : Nat} {m : SourceModule} {s : Smell} : s ∈ deepNesting limit m ↔
    limit < nestingDepth m.root ∧ s = .deepNesting (nestingDepth m.root) := by
  rw [deepNesting_eq]
  split <;> simp_all

theorem length_deepNesting_le (limit : Nat) (m : SourceModule) :
    (deepNesting limit m).length ≤ 1 := by
  rw [deepNesting_eq]
  split <;> simp

theorem deepNesting_sublist {limit limit' : Nat} (h : limit ≤ limit') (m : SourceModule) :
    (deepNesting limit' m).Sublist (deepNesting limit m) := by
  rw [deepNesting_eq, deepNesting_eq]
  split
  . next hdeep => rw [if_pos (h.trans_lt hdeep)]
  . exact List.nil_sublist _

theorem reportsSmells (limits : SmellThresholds) (m : SourceModule) :
    ReportsSmells m limits (smells limits m) := by
  constructor
  case eq_append => exact smells_eq limits m
  case long =>
    rw [longFunctions_eq]
    exact reportsEach_entriesOver
  case many =>
    rw [manyParameters_eq]
    exact reportsEach_entriesOver
  case length_nesting_le => exact length_deepNesting_le _ m
  case mem_nesting_iff =>
    intro s
    exact mem_deepNesting
  case length_magic_le =>
    unfold magicNumbers
    split <;> simp
  case mem_magic_iff =>
    intro s
    unfold magicNumbers
    split <;> simp_all

theorem smells_complete_antitone (h : limits ≤ limits') (m : SourceModule) :
    ReportsSmells m limits (smells limits m) ∧
      (smells limits' m).Sublist (smells limits m) := by
  refine ⟨reportsSmells limits m, ?_⟩
  obtain ⟨hlines, hparameters, hdepth⟩ := h
  rw [smells_eq, smells_eq, longFunctions_eq, longFunctions_eq, manyParameters_eq,
    manyParameters_eq]
  refine ((List.Sublist.append ?_ ?_).append ?_).append (List.Sublist.refl _)
  . exact entriesOver_sublist hlines
  . exact entriesOver_sublist hparameters
  . exact deepNesting_sublist hdepth m

def decoratedFirst : SourceModule where
  source := Source.ofString
    "@d\ndef f(a, b, c, d, e, g, i): pass\ndef h(a, b, c, d, e, g): pass\n"
  root := node "module" none 0 66
    [node "decorated_definition" none 0 35 [node "decorator" none 0 2 [], function 3 7],
      function 36 6]
where
  node (kind : String) (field : Option String) (start stop : Nat) (children : List SyntaxTree) :
      SyntaxTree :=
    .node { (default : NodeInfo) with
      kind, field, named := true, start.index := start, stop.index := stop } children
  function (start parameters : Nat) : SyntaxTree :=
    let stop := start + 3 * parameters + 11
    node "function_definition" none start stop
      [node "identifier" "name" (start + 4) (start + 5) [],
        node "parameters" "parameters" (start + 5) (stop - 6)
          (List.replicate parameters (node "identifier" none 0 0 [])),
        node "block" "body" (stop - 4) stop []]

theorem manyParameters_decoratedFirst : manyParameters 5 decoratedFirst =
    [.manyParameters "h" 6, .manyParameters "f" 7] := by
  cbv

theorem smells_complete_antitone_decoratedFirst :
    (⟨50, 5, 4⟩ : SmellThresholds) ≤ ⟨50, 6, 4⟩ ∧
      smells ⟨50, 5, 4⟩ decoratedFirst = [.manyParameters "h" 6, .manyParameters "f" 7] ∧
      (smells ⟨50, 6, 4⟩ decoratedFirst).Sublist (smells ⟨50, 5, 4⟩ decoratedFirst) := by
  have hle : (⟨50, 5, 4⟩ : SmellThresholds) ≤ ⟨50, 6, 4⟩ := by decide
  obtain ⟨hreports, hsublist⟩ := smells_complete_antitone hle decoratedFirst
  refine ⟨hle, ?_, hsublist⟩
  have hlong : longFunctions 50 decoratedFirst = [] := by cbv
  have hnesting : deepNesting 4 decoratedFirst = [] := by decide +kernel
  have hmagic : magicNumbers decoratedFirst = [] := by decide +kernel
  rw [hreports.eq_append, hlong, manyParameters_decoratedFirst, hnesting, hmagic]
  rfl

end Smells

section Turns

inductive DefinedBy (root : SyntaxTree) (block : Place) (i : Nat) : Bool → Place → Prop where
  | plain {t : SyntaxTree} (h : root.at? (block ++ [i]) = some t)
      (hkind : t.kind = "function_definition") : DefinedBy root block i false (block ++ [i])
  | decorated {t d : SyntaxTree} {k : Nat} (h : root.at? (block ++ [i]) = some t)
      (hkind : t.kind = "decorated_definition") (hd : root.at? (block ++ [i, k]) = some d)
      (hdkind : d.kind = "function_definition") : DefinedBy root block i true (block ++ [i, k])

/-- Two functions of a block come in the order of the text, but for one with decorators that has one
without behind it. -/
def Turns (ps : List Place) (decorated decorated' : Bool) (p q : Place) : Prop :=
  p ∈ ps → q ∈ ps → if decorated ∧ ¬decorated' then [q, p].Sublist ps else [p, q].Sublist ps

variable {root : SyntaxTree} {block p q : Place} {i j : Nat} {decorated decorated' : Bool}

theorem DefinedBy.exists_eq (h : DefinedBy root block i decorated p) :
    ∃ r, p = block ++ i :: r ∧ r.length = decorated.toNat := by
  cases h with
  | plain => exact ⟨[], rfl, rfl⟩
  | @decorated _ _ k => exact ⟨[k], rfl, rfl⟩

theorem DefinedBy.turns {ps : List Place} (hp : DefinedBy root block i decorated p)
    (hq : DefinedBy root block j decorated' q) (hij : i < j) (hps : ps.Pairwise Place.Before) :
    Turns ps decorated decorated' p q := by
  obtain ⟨r, rfl, hr⟩ := hp.exists_eq
  obtain ⟨s, rfl, hs⟩ := hq.exists_eq
  intro hpmem hqmem
  split
  . next hdecorators =>
    -- just the first one has decorators, which put it one level down
    apply pair_sublist hps hqmem hpmem
    apply List.Shortlex.append_left
    apply List.Shortlex.of_length_lt
    simp_all
  . next hdecorators =>
    apply pair_sublist hps hpmem hqmem
    apply List.Shortlex.append_left
    have hle : r.length ≤ s.length := by
      rw [hr, hs]
      cases decorated <;> simp_all
    obtain hlt | heq := hle.lt_or_eq
    . exact .of_length_lt (by simpa using hlt)
    . exact .of_lex (by simpa using heq) (.rel hij)

/-- Functions of a block with decorators are reported behind those without, and otherwise in the
order of the text. -/
theorem functions_reported_in_turn {m : SourceModule} (hp : DefinedBy m.root block i decorated p)
    (hq : DefinedBy m.root block j decorated' q) (hij : i < j) (limit : Nat) :
    (ReportsEach m functionSpan .longFunction limit (longFunctions limit m) ∧
      Turns (placesOver functionSpan limit m.root) decorated decorated' p q) ∧
    (ReportsEach m positionalParameters .manyParameters limit (manyParameters limit m) ∧
      Turns (placesOver positionalParameters limit m.root) decorated decorated' p q) := by
  rw [longFunctions_eq, manyParameters_eq]
  exact ⟨⟨reportsEach_entriesOver, hp.turns hq hij (placesOver_pairwise m.root)⟩,
    reportsEach_entriesOver, hp.turns hq hij (placesOver_pairwise m.root)⟩

theorem definedBy_decoratedFirst : DefinedBy decoratedFirst.root [] 0 true [0, 1] ∧
    DefinedBy decoratedFirst.root [] 1 false [1] :=
  ⟨.decorated rfl rfl rfl rfl, .plain rfl rfl⟩

theorem placesOver_decoratedFirst :
    [0, 1] ∈ placesOver positionalParameters 5 decoratedFirst.root ∧
      [1] ∈ placesOver positionalParameters 5 decoratedFirst.root := by
  have hfunction : (decoratedFirst.function 3 7).isAsync = false ∧
      5 < positionalParameters (decoratedFirst.function 3 7) := by decide +kernel
  have hfunction' : (decoratedFirst.function 36 6).isAsync = false ∧
      5 < positionalParameters (decoratedFirst.function 36 6) := by decide +kernel
  exact ⟨mem_placesOver.mpr ⟨_, rfl, rfl, hfunction⟩, mem_placesOver.mpr ⟨_, rfl, rfl, hfunction'⟩⟩

theorem functions_reported_in_turn_decoratedFirst :
    DefinedBy decoratedFirst.root [] 0 true [0, 1] ∧ DefinedBy decoratedFirst.root [] 1 false [1] ∧
      [[1], [0, 1]].Sublist (placesOver positionalParameters 5 decoratedFirst.root) := by
  obtain ⟨hp, hq⟩ := definedBy_decoratedFirst
  obtain ⟨hpmem, hqmem⟩ := placesOver_decoratedFirst
  exact ⟨hp, hq, (functions_reported_in_turn hp hq Nat.zero_lt_one 5).2.2 hpmem hqmem⟩

/-- The first function of a block is reported behind the second. -/
theorem decorated_reported_behind_next :
    DefinedBy decoratedFirst.root [] 0 true [0, 1] ∧ DefinedBy decoratedFirst.root [] 1 false [1] ∧
      [0, 1] ∈ placesOver positionalParameters 5 decoratedFirst.root ∧
      [1] ∈ placesOver positionalParameters 5 decoratedFirst.root ∧
      ¬[[0, 1], [1]].Sublist (placesOver positionalParameters 5 decoratedFirst.root) ∧
      manyParameters 5 decoratedFirst = [.manyParameters "h" 6, .manyParameters "f" 7] := by
  obtain ⟨hp, hq⟩ := definedBy_decoratedFirst
  obtain ⟨hpmem, hqmem⟩ := placesOver_decoratedFirst
  refine ⟨hp, hq, hpmem, hqmem, ?_, manyParameters_decoratedFirst⟩
  intro h
  have hbefore := List.pairwise_pair.mp ((placesOver_pairwise _).sublist h)
  simp [List.shortlex_def] at hbefore

end Turns

end CodeAppraisal
