import CodeAppraisal.Proofs.Metrics.Scopes

/-!
This module shows that a function's complexity is decided by its own code: neither by its decorators
or its signature, nor by what is in the definitions in it.
-/
namespace CodeAppraisal.Metrics

open CodeAppraisal.Parsing SyntaxTree

def roleOf (i : NodeInfo) : NodeInfo :=
  { (default : NodeInfo) with kind := i.kind, field := i.field }

def hollow (t : SyntaxTree) : SyntaxTree := .node (roleOf t.info) []

mutual

def outline : SyntaxTree → SyntaxTree
  | .node i cs => .node (roleOf i) (outlineBelow cs)

def outlineBelow : List SyntaxTree → List SyntaxTree
  | [] => []
  | c :: cs => (if defines c then hollow c else outline c) :: outlineBelow cs

end

def isSignature (t : SyntaxTree) : Bool :=
  t.info.field == some "parameters" || t.info.field == some "return_type"

/-- A function, with or without decorators, as it is but for these, its signature, and what is in
the definitions in it. -/
def ownCode (t : SyntaxTree) : SyntaxTree :=
  .node (roleOf (undecorated t).info)
    ((undecorated t).children.map fun c => if isSignature c then hollow c else outline c)

section Outline

variable {t : SyntaxTree}

theorem children_outline (t : SyntaxTree) : (outline t).children =
    t.children.map fun c => if defines c then hollow c else outline c := by
  cases t with
  | node i cs =>
    rw [outline, children, children]
    induction cs with
    | nil => rfl
    | cons c cs ih => rw [outlineBelow, ih, List.map_cons]

@[simp]
theorem info_hollow (t : SyntaxTree) : (hollow t).info = roleOf t.info := rfl

@[simp]
theorem info_outline (t : SyntaxTree) : (outline t).info = roleOf t.info := by
  cases t
  rfl

@[simp]
theorem kind_hollow (t : SyntaxTree) : (hollow t).kind = t.kind := rfl

@[simp]
theorem kind_outline (t : SyntaxTree) : (outline t).kind = t.kind := by
  rw [kind, info_outline, kind, roleOf]

theorem find?_map_of_role (f : SyntaxTree → SyntaxTree) (hf : ∀ c, (f c).info = roleOf c.info)
    (cs : List SyntaxTree) (field : String) :
    (cs.map f).find? (·.info.field == some field) =
      (cs.find? (·.info.field == some field)).map f := by
  rw [List.find?_map]
  simp only [Function.comp_def, hf, roleOf]

theorem child?_outline (t : SyntaxTree) (field : String) : (outline t).child? field =
    (t.child? field).map fun c => if defines c then hollow c else outline c := by
  rw [child?, children_outline]
  apply find?_map_of_role
  intro c
  split <;> simp

theorem hasElse_outline (t : SyntaxTree) : hasElse (outline t) = hasElse t := by
  rw [hasElse, hasElse, children_outline, List.any_map]
  congr 1
  funext c
  rw [Function.comp_apply]
  split <;> simp

theorem decisionPoints_outline (t : SyntaxTree) :
    decisionPoints (outline t) = decisionPoints t := by
  simp only [decisionPoints, kind_outline, hasElse_outline]

theorem defines_outline (t : SyntaxTree) : defines (outline t) = defines t := by
  unfold defines undecorated
  rw [kind_outline, child?_outline]
  split
  . cases t.child? "definition" with
    | none => simp [isDefinition]
    | some d =>
      simp only [Option.map_some, Option.getD_some, isDefinition]
      split <;> simp
  . simp [isDefinition]

theorem kind_of_defines (h : defines t = true) : t.kind = "decorated_definition" ∨
    t.kind = "function_definition" ∨ t.kind = "class_definition" := by
  unfold defines undecorated at h
  split at h
  . next hdecorated => exact .inl (beq_iff_eq.mp hdecorated)
  . right
    simpa [isDefinition] using h

theorem decisionPoints_hollow (h : defines t = true) : decisionPoints (hollow t) = 0 := by
  obtain hkind | hkind | hkind := kind_of_defines h <;> simp [decisionPoints, hkind]

theorem scopeBelow_hollow (t : SyntaxTree) : scopeBelow (hollow t) = .empty := by
  rw [hollow, scopeBelow, scopeOf]

theorem decisions_outline (t : SyntaxTree) :
    (scopeBelow (outline t)).decisions = (scopeBelow t).decisions := by
  induction t using SyntaxTree.induction with
  | h t ih =>
    rw [scopeBelow_eq, scopeBelow_eq, (scopeOf_eq _).1, (scopeOf_eq _).1, children_outline,
      List.map_map]
    congr 1
    apply List.map_congr_left
    intro c hc
    rw [Function.comp_apply]
    cases hdef : defines c with
    | true =>
      -- nothing in it counts, even if it is no definition without what was in it
      simp [decisionPoints_hollow hdef, scopeBelow_hollow, Scope.empty]
    | false => simp [hdef, defines_outline, decisionPoints_outline, ih c hc]

end Outline

section OwnCode

variable {t t' : SyntaxTree}

theorem body_ownCode (t : SyntaxTree) :
    (ownCode t).child? "body" = ((undecorated t).child? "body").map outline := by
  have hfind := find?_map_of_role (fun c => if isSignature c then hollow c else outline c)
    (fun c => by split <;> simp) (undecorated t).children "body"
  rw [ownCode, child?, children, hfind, child?]
  apply Option.map_congr
  intro c hc
  have hfield := List.find?_some hc
  rw [beq_iff_eq] at hfield
  simp [isSignature, hfield]

theorem functionComplexity_ownCode (t : SyntaxTree) : functionComplexity (undecorated t) =
    1 + ((ownCode t).child? "body").elim 0 fun b => (scopeBelow b).decisions := by
  rw [functionComplexity, bodyScope_eq, body_ownCode]
  cases (undecorated t).child? "body" with
  | none => rfl
  | some b => simp [decisions_outline]

theorem functionComplexity_congr (h : ownCode t = ownCode t') :
    functionComplexity (undecorated t) = functionComplexity (undecorated t') := by
  rw [functionComplexity_ownCode, functionComplexity_ownCode, h]

end OwnCode

end CodeAppraisal.Metrics
