import CodeAppraisal.Metrics.Complexity
import CodeAppraisal.Proofs.Parsing.Places

/-!
This module says of each node of a syntax tree whether its decisions count, and shows that the total
complexity counts them once.
-/
namespace CodeAppraisal.Metrics

open CodeAppraisal.Parsing SyntaxTree

def defines (t : SyntaxTree) : Bool := isDefinition (undecorated t)

def Clear (t : SyntaxTree) (p : Place) : Prop :=
  ∀ q ∈ p.inits, q ≠ [] → (t.at? q).any defines = false

instance (t : SyntaxTree) (p : Place) : Decidable (Clear t p) :=
  inferInstanceAs (Decidable (∀ q ∈ p.inits, q ≠ [] → (t.at? q).any defines = false))

def scopeNodes (t : SyntaxTree) : Finset Place := {p ∈ t.places | p ≠ [] ∧ Clear t p}

def scopeDefinitions (t : SyntaxTree) : Finset Place :=
  {p ∈ t.places | p ≠ [] ∧ Clear t p.dropLast ∧ (t.at? p).any defines}

def bodyPlaces (t : SyntaxTree) : Finset Place :=
  (part? (undecorated t) "body").elim ∅ fun i => {undecoratedPlace t ++ [i]}
where
  part? (t : SyntaxTree) (field : String) : Option Nat :=
    t.children.findIdx? fun c => c.info.field == some field
  undecoratedPlace (t : SyntaxTree) : Place :=
    if t.kind == "decorated_definition" then (part? t "definition").toList else []

def methodPlaces (t : SyntaxTree) : Finset Place :=
  if (undecorated t).kind == "class_definition" then
    {p ∈ within scopeDefinitions t (bodyPlaces t) |
      (t.at? p).any fun m => (undecorated m).kind == "function_definition"}
  else ∅

def countedIn (t : SyntaxTree) : Finset Place :=
  within scopeNodes t (bodyPlaces t) ∪
    within (fun m => within scopeNodes m (bodyPlaces m)) t (methodPlaces t)

def counted (root : SyntaxTree) : Finset Place :=
  scopeNodes root ∪ within countedIn root (scopeDefinitions root)

def moduleMethods (root : SyntaxTree) : Finset Place :=
  within methodPlaces root (scopeDefinitions root)

section Clear

variable {t c : SyntaxTree} {i : Nat} {p q : Place}

theorem clear_nil (t : SyntaxTree) : Clear t [] := by
  simp [Clear]

theorem clear_cons (hc : t.children[i]? = some c) :
    Clear t (i :: p) ↔ defines c = false ∧ Clear c p := by
  unfold Clear
  constructor
  . intro h
    constructor
    . simpa [hc] using h [i] (by simp) (by simp)
    . intro q hq _
      simpa [hc] using h (i :: q) (by simpa using hq) (by simp)
  . rintro ⟨hdef, h⟩ q hq hne
    cases q with
    | nil => exact absurd rfl hne
    | cons j q =>
      rw [List.mem_inits, List.cons_prefix_cons] at hq
      obtain ⟨rfl, hq⟩ := hq
      rw [at?_cons, hc, Option.bind_some]
      cases q with
      | nil => simpa using hdef
      | cons k q => exact h (k :: q) (by simpa using hq) (by simp)

theorem Clear.of_prefix (h : Clear t p) (hq : q <+: p) : Clear t q := by
  intro r hr
  exact h r (List.mem_inits r p |>.mpr ((List.mem_inits r q |>.mp hr).trans hq))

theorem Clear.any_defines (h : Clear t p) (hp : p ≠ []) : (t.at? p).any defines = false :=
  h p (List.mem_inits p p |>.mpr List.prefix_rfl) hp

end Clear

section Scope

variable {t c : SyntaxTree} {i : Nat} {p q : Place}

theorem scopeNodes_subset (t : SyntaxTree) : scopeNodes t ⊆ t.places :=
  Finset.filter_subset _ _

theorem scopeDefinitions_subset (t : SyntaxTree) : scopeDefinitions t ⊆ t.places :=
  Finset.filter_subset _ _

theorem under_scopeNodes (hc : t.children[i]? = some c) :
    under (scopeNodes t) i = if defines c then ∅ else insert [] (scopeNodes c) := by
  ext p
  rw [mem_under]
  simp only [scopeNodes, Finset.mem_filter, cons_mem_places, clear_cons hc, hc]
  cases defines c with
  | true => simp
  | false =>
    cases p with
    | nil => simp [clear_nil]
    | cons j p => simp

theorem under_scopeDefinitions (hc : t.children[i]? = some c) :
    under (scopeDefinitions t) i = if defines c then {[]} else scopeDefinitions c := by
  ext p
  rw [mem_under]
  simp only [scopeDefinitions, Finset.mem_filter, cons_mem_places, at?_cons, hc]
  cases p with
  | nil => cases hdef : defines c <;> simp [clear_nil, hdef]
  | cons j p =>
    rw [List.dropLast_cons_of_ne_nil (by simp), clear_cons hc]
    cases defines c <;> simp

theorem append_notMem_scopeNodes (hq : q ∈ scopeDefinitions t) (p : Place) :
    q ++ p ∉ scopeNodes t := by
  intro h
  obtain ⟨_, hne, _, hdef⟩ := Finset.mem_filter.mp hq
  obtain ⟨_, _, hclear⟩ := Finset.mem_filter.mp h
  have := (hclear.of_prefix (List.prefix_append q p)).any_defines hne
  simp [hdef] at this

theorem eq_of_prefix_of_defines (hp : p ∈ scopeDefinitions t) (hq : q <+: p) (hne : q ≠ [])
    (hdef : (t.at? q).any defines = true) : q = p := by
  obtain ⟨_, hnep, hclear, _⟩ := Finset.mem_filter.mp hp
  by_contra hqp
  have hup : q <+: p.dropLast := by
    rw [← List.dropLast_concat_getLast hnep, List.prefix_concat_iff] at hq
    cases hq with
    | inl h => exact absurd (h.trans (List.dropLast_concat_getLast hnep)) hqp
    | inr h => exact h
  have := (hclear.of_prefix hup).any_defines hne
  simp [hdef] at this

theorem apart_scopeDefinitions (t : SyntaxTree) : Apart (scopeDefinitions t) := by
  intro q hq q' hq' hprefix
  obtain ⟨_, hne, _, hdef⟩ := Finset.mem_filter.mp hq
  exact eq_of_prefix_of_defines hq' hprefix hne hdef

end Scope

theorem scopeOf_eq (cs : List SyntaxTree) :
    (scopeOf cs).decisions = (cs.map fun c =>
        if defines c then 0 else decisionPoints c + (scopeBelow c).decisions).sum ∧
      (scopeOf cs).definitions = cs.flatMap fun c =>
        if defines c then [undecorated c] else (scopeBelow c).definitions := by
  induction cs with
  | nil => exact ⟨by rw [scopeOf, Scope.empty]; rfl, by rw [scopeOf, Scope.empty]; rfl⟩
  | cons c cs ih =>
    rw [scopeOf, Scope.append, ih.1, ih.2, List.map_cons, List.sum_cons, List.flatMap_cons]
    unfold defines
    split
    . exact ⟨rfl, rfl⟩
    . exact ⟨rfl, rfl⟩

theorem scopeBelow_eq (t : SyntaxTree) : scopeBelow t = scopeOf t.children := by
  cases t
  rw [scopeBelow, children]

theorem sumAt_scopeNodes (t : SyntaxTree) :
    sumAt decisionPoints t (scopeNodes t) = (scopeBelow t).decisions := by
  induction t using SyntaxTree.induction with
  | h t ih =>
    rw [scopeBelow_eq, (scopeOf_eq _).1]
    apply sumAt_children (scopeNodes_subset t) (by simp [scopeNodes])
    intro i c hc
    rw [under_scopeNodes hc]
    split
    . rfl
    . rw [← ih c (List.mem_of_getElem? hc), sumAt,
        Finset.sum_insert (by simp [scopeNodes]), sumAt]
      simp

theorem sumAt_scopeDefinitions (weight : SyntaxTree → Nat) (t : SyntaxTree) :
    sumAt (weight <| undecorated ·) t (scopeDefinitions t) =
      ((scopeBelow t).definitions.map weight).sum := by
  induction t using SyntaxTree.induction with
  | h t ih =>
    rw [scopeBelow_eq, (scopeOf_eq _).2, List.map_flatMap, List.flatMap_def, List.sum_flatten,
      List.map_map]
    apply sumAt_children (scopeDefinitions_subset t) (by simp [scopeDefinitions])
    intro i c hc
    rw [under_scopeDefinitions hc, Function.comp_apply]
    split
    . simp [sumAt]
    . rw [ih c (List.mem_of_getElem? hc)]

section Body

variable {S : SyntaxTree → Finset Place}

theorem child?_eq (t : SyntaxTree) (field : String) :
    t.child? field = (bodyPlaces.part? t field).bind (t.children[·]?) :=
  List.find?_eq_bind_findIdx?_getElem?

theorem exists_child_of_part? {t : SyntaxTree} {field : String} {i : Nat}
    (h : bodyPlaces.part? t field = some i) : ∃ c, t.children[i]? = some c := by
  obtain ⟨hi, _⟩ := List.findIdx?_eq_some_iff_getElem.mp h
  exact ⟨t.children[i], by simp⟩

theorem at?_undecoratedPlace (t : SyntaxTree) :
    t.at? (bodyPlaces.undecoratedPlace t) = some (undecorated t) := by
  unfold bodyPlaces.undecoratedPlace undecorated
  split
  . rw [child?_eq]
    cases h : bodyPlaces.part? t "definition" with
    | none => simp
    | some i =>
      obtain ⟨c, hc⟩ := exists_child_of_part? h
      simp [hc]
  . simp

theorem apart_bodyPlaces (t : SyntaxTree) : Apart (bodyPlaces t) := by
  unfold bodyPlaces
  cases bodyPlaces.part? (undecorated t) "body" <;> simp [Apart]

theorem sumAt_bodyPlaces (weight : SyntaxTree → Nat) (t : SyntaxTree) :
    sumAt weight t (bodyPlaces t) = ((undecorated t).child? "body").elim 0 weight := by
  rw [child?_eq]
  unfold bodyPlaces
  cases bodyPlaces.part? (undecorated t) "body" with
  | none => rfl
  | some i => simp [sumAt, at?_append, at?_undecoratedPlace]

theorem sumAt_within_bodyPlaces (weight : SyntaxTree → Nat) (t : SyntaxTree) :
    sumAt weight t (within S t (bodyPlaces t)) =
      ((undecorated t).child? "body").elim 0 fun b => sumAt weight b (S b) := by
  rw [sumAt_within (apart_bodyPlaces t), sumAt_bodyPlaces]

end Body

theorem bodyScope_eq (t : SyntaxTree) :
    bodyScope t = (t.child? "body").elim .empty scopeBelow := by
  unfold bodyScope
  cases t.child? "body" <;> rfl

theorem functionComplexity_undecorated (t : SyntaxTree) :
    functionComplexity (undecorated t) =
      1 + sumAt decisionPoints t (within scopeNodes t (bodyPlaces t)) := by
  rw [functionComplexity, bodyScope_eq, sumAt_within_bodyPlaces]
  cases (undecorated t).child? "body" with
  | none => rfl
  | some b => simp [sumAt_scopeNodes]

theorem sumAt_filter (weight : SyntaxTree → Nat) (t : SyntaxTree) (S : Finset Place)
    (p : SyntaxTree → Bool) :
    sumAt weight t {q ∈ S | (t.at? q).any p} =
      sumAt (fun c => if p c then weight c else 0) t S := by
  unfold sumAt
  rw [Finset.sum_filter]
  apply Finset.sum_congr rfl
  intro q _
  cases t.at? q <;> simp

theorem addUp_methodsOf_undecorated (t : SyntaxTree)
    (hclass : (undecorated t).kind = "class_definition") :
    addUp ((methodsOf (undecorated t)).map (·.2)) =
      sumAt (functionComplexity <| undecorated ·) t (methodPlaces t) := by
  have hscores : (methodsOf (undecorated t)).map (·.2) =
      ((bodyScope (undecorated t)).definitions.filter (·.kind == "function_definition")).map
        functionComplexity := by
    simp [methodsOf]
  rw [hscores, addUp_eq_sum, methodPlaces, if_pos (by simpa using hclass), sumAt_filter,
    sumAt_within_bodyPlaces, bodyScope_eq]
  cases (undecorated t).child? "body" with
  | none => rfl
  | some b =>
    have hsplit := sumAt_scopeDefinitions
      (fun m => if m.kind == "function_definition" then functionComplexity m else 0) b
    simpa [List.sum_map_ite, beq_eq_decide] using hsplit.symm

def definitionTotal (t : SyntaxTree) : Nat :=
  if t.kind == "class_definition" then classTotal t else functionComplexity t

theorem disjoint_scopeNodes {S : SyntaxTree → Finset Place} {t : SyntaxTree} :
    Disjoint (scopeNodes t) (within S t (scopeDefinitions t)) := by
  rw [Finset.disjoint_left]
  intro p hp hp'
  obtain ⟨q, hq, c, _, r, _, rfl⟩ := mem_within.mp hp'
  exact append_notMem_scopeNodes hq r hp

section Methods

variable {t : SyntaxTree}

theorem mem_methodPlaces {p : Place} (hp : p ∈ methodPlaces t) :
    p ∈ within scopeDefinitions t (bodyPlaces t) := by
  unfold methodPlaces at hp
  split at hp
  . exact (Finset.mem_filter.mp hp).1
  . exact absurd hp (Finset.notMem_empty p)

theorem apart_methodPlaces (t : SyntaxTree) : Apart (methodPlaces t) := by
  intro p hp p' hp' hprefix
  obtain ⟨b, hb, c, hc, q, hq, rfl⟩ := mem_within.mp (mem_methodPlaces hp)
  obtain ⟨b', hb', c', hc', q', hq', rfl⟩ := mem_within.mp (mem_methodPlaces hp')
  obtain ⟨r, hr⟩ := hprefix
  rw [List.append_assoc] at hr
  obtain rfl := (apart_bodyPlaces t).eq_of_append hb hb' hr
  obtain rfl := Option.some.inj (hc.symm.trans hc')
  rw [apart_scopeDefinitions c q hq q' hq' ⟨r, List.append_cancel_left hr⟩]

theorem disjoint_methodPlaces {S : SyntaxTree → Finset Place} :
    Disjoint (within scopeNodes t (bodyPlaces t)) (within S t (methodPlaces t)) := by
  rw [Finset.disjoint_left]
  intro p hp hp'
  obtain ⟨b, hb, c, hc, q, hq, rfl⟩ := mem_within.mp hp
  obtain ⟨m, hm, _, _, r, _, hr⟩ := mem_within.mp hp'
  obtain ⟨b', hb', c', hc', d, hd, rfl⟩ := mem_within.mp (mem_methodPlaces hm)
  rw [List.append_assoc] at hr
  obtain rfl := (apart_bodyPlaces t).eq_of_append hb' hb hr
  obtain rfl := Option.some.inj (hc.symm.trans hc')
  rw [← List.append_cancel_left hr] at hq
  exact append_notMem_scopeNodes hd r hq

theorem methodPlaces_subset (t : SyntaxTree) : methodPlaces t ⊆ t.places := fun _ hp =>
  within_subset scopeDefinitions_subset (mem_methodPlaces hp)

theorem definitionTotal_undecorated (t : SyntaxTree) :
    definitionTotal (undecorated t) =
      1 + (methodPlaces t).card + sumAt decisionPoints t (countedIn t) := by
  rw [countedIn, sumAt_union disjoint_methodPlaces, sumAt_within (apart_methodPlaces t)]
  unfold definitionTotal
  split
  . next hclass =>
    rw [classTotal, addUp_methodsOf_undecorated t (by simpa using hclass)]
    have hbody := functionComplexity_undecorated t
    rw [functionComplexity] at hbody
    simp only [functionComplexity_undecorated]
    rw [sumAt_add, sumAt_eq_card (methodPlaces_subset t)]
    omega
  . next hclass =>
    have hnone : methodPlaces t = ∅ := by
      rw [methodPlaces, if_neg hclass]
    rw [functionComplexity_undecorated, hnone]
    simp [sumAt]

end Methods

theorem snd_definitionBlocks (nameOf : SyntaxTree → String) (t : SyntaxTree) :
    (definitionBlocks nameOf t).2 = definitionTotal t := by
  unfold definitionBlocks definitionTotal
  split <;> rfl

theorem total_eq_sum (nameOf : SyntaxTree → String) (root : SyntaxTree) :
    (complexityOf nameOf root).total = (scopeBelow root).decisions +
      ((scopeBelow root).definitions.map definitionTotal).sum := by
  simp [complexityOf, addUp_eq_sum, Function.comp_def, snd_definitionBlocks]

theorem total_eq (nameOf : SyntaxTree → String) (root : SyntaxTree) :
    (complexityOf nameOf root).total =
      (scopeDefinitions root).card + (moduleMethods root).card +
        sumAt decisionPoints root (counted root) := by
  have hmethods : moduleMethods root ⊆ root.places := within_subset methodPlaces_subset
  rw [total_eq_sum, ← sumAt_scopeNodes, ← sumAt_scopeDefinitions]
  simp only [definitionTotal_undecorated]
  rw [sumAt_add, sumAt_add, sumAt_eq_card (scopeDefinitions_subset root),
    ← sumAt_eq_card hmethods, moduleMethods, counted, sumAt_union disjoint_scopeNodes,
    sumAt_within (apart_scopeDefinitions root), sumAt_within (apart_scopeDefinitions root)]
  simp only [sumAt_eq_card (methodPlaces_subset _)]
  omega

end CodeAppraisal.Metrics
