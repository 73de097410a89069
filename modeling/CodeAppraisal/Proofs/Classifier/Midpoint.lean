import CodeAppraisal.Proofs.Binary64.Operations
import CodeAppraisal.Proofs.Classifier.Recall

/-!
This module is about growth on doubles. The threshold half way between two of them lies between
them, but rounding can put it on the second one, and then a split may leave no sample on its right.
-/
namespace CodeAppraisal.Classifier

open Quantity DecisionTree Binary64

section Doubles

variable {here next : Float}

theorem le_eq_decide_float (a b : Float) : le a b = decide (a ≤ b) := rfl

theorem midpoint_spec (hhere : here.isFinite) (hnext : next.isFinite) (hlt : here < next)
    (hgap : (next - here).isFinite) :
    (midpoint here next).isFinite ∧ here ≤ midpoint here next ∧ midpoint here next ≤ next ∧
      (midpoint here next < next ↔ ¬ OddNeighbours (units here) (units next)) := by
  rw [lt_iff_units hhere hnext] at hlt
  have hrhere := (denotes_units hhere).representable
  have hrnext := (denotes_units hnext).representable
  obtain ⟨hfinite, hhalf⟩ := units_half hgap
  have hhalf : HalfOf (units next - units here) (units ((next - here) / 2.0)) :=
    ⟨_, units_sub hnext hhere hgap, hhalf⟩
  obtain ⟨z, hz, hsum⟩ := units_add hhere hfinite
  obtain ⟨hge, hle⟩ := middle_mem hrhere hrnext hlt hhalf hz
  obtain ⟨hmiddle, hunits⟩ : (midpoint here next).isFinite ∧ units (midpoint here next) = z := by
    obtain hpos | hneg := le_total 0 z
    . exact hsum next hnext (abs_le_abs_of_nonneg hpos hle)
    . exact hsum here hhere (abs_le_abs_of_nonpos hneg hge)
  rw [le_iff_units hhere hmiddle, le_iff_units hmiddle hnext, lt_iff_units hmiddle hnext, hunits]
  refine ⟨hmiddle, hge, hle, ?_, ?_⟩
  . intro hless hodd
    exact hless.ne (middle_eq_of_oddNeighbours hrhere hodd hhalf hz)
  . intro hseparable
    refine lt_of_le_of_ne hle ?_
    rintro rfl
    exact hseparable (oddNeighbours_of_middle_eq hrhere hlt hhalf hz)

end Doubles

structure FiniteGaps (samples : List (Sample Float)) : Prop where
  finite : ∀ s ∈ samples, ∀ f, (feature s.row f).isFinite
  gap : ∀ s ∈ samples, ∀ s' ∈ samples, ∀ f, (feature s'.row f - feature s.row f).isFinite

def NoOddNeighbours (samples : List (Sample Float)) : Prop :=
  ∀ s ∈ samples, ∀ s' ∈ samples, ∀ f,
    ¬ OddNeighbours (units (feature s.row f)) (units (feature s'.row f))

def pairOf (here next : Float) : List (Sample Float) := [⟨#[here], 0⟩, ⟨#[next], 1⟩]

section Samples

variable {samples : List (Sample Float)}

theorem FiniteGaps.lt_of_le_eq_false (h : FiniteGaps samples) {s s' : Sample Float}
    (hs : s ∈ samples) (hs' : s' ∈ samples) {f : Nat}
    (hle : le (feature s'.row f) (feature s.row f) = false) :
    feature s.row f < feature s'.row f := by
  rw [le_eq_decide_float, decide_eq_false_iff_not,
    le_iff_units (h.finite s' hs' f) (h.finite s hs f)] at hle
  rw [lt_iff_units (h.finite s hs f) (h.finite s' hs' f)]
  omega

theorem FiniteGaps.separable (h : FiniteGaps samples) (hnone : NoOddNeighbours samples) :
    Separable samples := by
  intro s hs s' hs' f hle
  have hlt := h.lt_of_le_eq_false hs hs' hle
  obtain ⟨hmiddle, hge, _, hless⟩ := midpoint_spec (h.finite s hs f) (h.finite s' hs' f) hlt
    (h.gap s hs s' hs' f)
  have hless := hless.mpr (hnone s hs s' hs' f)
  constructor
  . exact decide_eq_true hge
  . rw [le_eq_decide_float, decide_eq_false_iff_not, le_iff_units (h.finite s' hs' f) hmiddle]
    rw [lt_iff_units hmiddle (h.finite s' hs' f)] at hless
    omega

theorem forall_pairOf {here next : Float} {p : Float → Float → Prop} (hsame : p 0.0 0.0)
    (h : ∀ a ∈ [here, next], ∀ b ∈ [here, next], p a b) :
    ∀ s ∈ pairOf here next, ∀ s' ∈ pairOf here next, ∀ f,
      p (feature s.row f) (feature s'.row f) := by
  intro s hs s' hs' f
  cases f with
  | zero =>
    apply h
    . simp only [pairOf, List.mem_cons, List.not_mem_nil, or_false] at hs ⊢
      rcases hs with rfl | rfl <;> simp [feature]
    . simp only [pairOf, List.mem_cons, List.not_mem_nil, or_false] at hs' ⊢
      rcases hs' with rfl | rfl <;> simp [feature]
  | succ f =>
    simp only [pairOf, List.mem_cons, List.not_mem_nil, or_false] at hs hs'
    rcases hs with rfl | rfl <;> rcases hs' with rfl | rfl <;> simpa [feature] using hsame

theorem finiteGaps_pairOf {here next : Float} (hhere : here.isFinite) (hnext : next.isFinite)
    (h : ∀ a ∈ [here, next], ∀ b ∈ [here, next], (b - a).isFinite) :
    FiniteGaps (pairOf here next) := by
  constructor
  . intro s hs f
    refine forall_pairOf (p := fun a _ => a.isFinite) (by decide +kernel) ?_ s hs s hs f
    simpa using ⟨hhere, hnext⟩
  . exact forall_pairOf (p := fun a b => (b - a).isFinite) (by decide +kernel) h

theorem growth_on_doubles (h : FiniteGaps samples) :
    (∀ s ∈ samples, ∀ s' ∈ samples, ∀ f, feature s.row f < feature s'.row f →
      feature s.row f ≤ midpoint (feature s.row f) (feature s'.row f) ∧
        midpoint (feature s.row f) (feature s'.row f) ≤ feature s'.row f ∧
        (midpoint (feature s.row f) (feature s'.row f) < feature s'.row f ↔
          ¬ OddNeighbours (units (feature s.row f)) (units (feature s'.row f)))) ∧
    (NoOddNeighbours samples → ∀ growth : Growth,
      (∀ {σ : Type} (shuffle : σ → List Nat → List Nat × σ) (state : σ),
        ∃ r, growth.grow shuffle state samples = some r) ∧
      ∀ part ⊆ samples, ∀ order split,
        bestSplit growth.classes part growth.tried order = some split →
          (part.filter (goesLeft split)).length < part.length ∧
            (part.filter fun s => !goesLeft split s).length < part.length) := by
  constructor
  . intro s hs s' hs' f hlt
    exact (midpoint_spec (h.finite s hs f) (h.finite s' hs' f) hlt (h.gap s hs s' hs' f)).2
  . intro hnone growth
    constructor
    . intro σ shuffle state
      exact growth.exists_grow shuffle state (h.separable hnone)
    . intro part hpart order split hsplit
      exact length_lefts_lt ((h.separable hnone).subset hpart) hsplit

theorem growth_on_doubles_one_two :
    ∃ r, (Growth.mk 1 2 1).grow Generator.shuffle (.ofSeed 3) (pairOf 1.0 2.0) = some r := by
  have hone : (1.0 : Float).isFinite := by decide +kernel
  have htwo : (2.0 : Float).isFinite := by decide +kernel
  have hgaps : FiniteGaps (pairOf 1.0 2.0) := finiteGaps_pairOf hone htwo (by decide +kernel)
  have hup : ¬ OddNeighbours (units 1.0) (units 2.0) :=
    (midpoint_spec hone htwo (by decide +kernel) (by decide +kernel)).2.2.2.mp (by decide +kernel)
  have hdown : ¬ OddNeighbours (units 2.0) (units 1.0) := fun h =>
    absurd ((lt_iff_units htwo hone).mpr h.lt) (by decide +kernel)
  have hsame (n : Int) : ¬ OddNeighbours n n := fun h => lt_irrefl n h.lt
  refine ((growth_on_doubles hgaps).2 ?_ ⟨1, 2, 1⟩).1 Generator.shuffle (.ofSeed 3)
  apply forall_pairOf (p := fun a b => ¬ OddNeighbours (units a) (units b))
  . exact hsame _
  . simpa using ⟨⟨hsame _, hup⟩, hdown, hsame _⟩

end Samples

section Endless

variable {here next : Float}

theorem valuesOf_pairOf (hle : le here next = true) :
    valuesOf (pairOf here next) 0 = [(here, 0), (next, 1)] :=
  List.mergeSort_of_pairwise (by simpa [pairOf, feature] using hle)

/-- Growth on two samples whose threshold is the second one gets the same samples over and over. -/
theorem not_grown_pairOf (hle : le here next = true) (hgap : le next here = false)
    (hover : le next (midpoint here next) = true) (hback : le here (midpoint here next) = true)
    {t : DecisionTree Float} : ¬ Grown ⟨1, 2, 1⟩ (pairOf here next) t := by
  intro h
  generalize hsamples : pairOf here next = samples at h
  induction h with
  | leaf hends =>
    subst hsamples
    cases hends with
    | few h => exact absurd h (by simp [pairOf])
    | pure h => exact absurd h (by simp [pairOf]; decide)
    | alike order horder h =>
      have hnil := splitsOn_eq_nil_of_bestSplit (f := 0) (by decide) h (by
        rw [horder.mem_iff]
        decide)
      rw [splitsOn_eq, valuesOf_pairOf hle, splitsOf] at hnil
      simp [hgap] at hnil
  | @branch _ order split _ _ horder hsplit hleft hright ihleft ihright =>
    subst hsamples
    obtain ⟨hmem, hon⟩ := bestSplit_mem hsplit
    have hfeature : split.feature = 0 := by simpa using horder.mem_iff.mp hmem
    obtain ⟨_, before, a, b, after, hvalues, _, hthreshold⟩ := mem_splitsOn hon
    rw [hfeature, valuesOf_pairOf hle] at hvalues
    obtain ⟨rfl, rfl, _⟩ : (here, 0) = a ∧ (next, 1) = b ∧ after = [] := by
      cases before with
      | nil => simpa using hvalues
      | cons v before =>
        have := congrArg List.length hvalues
        simp at this
        omega
    apply ihleft
    symm
    rw [List.filter_eq_self]
    intro s hs
    rw [goesLeft, hfeature, hthreshold]
    obtain rfl | rfl : s = ⟨#[here], 0⟩ ∨ s = ⟨#[next], 1⟩ := by simpa [pairOf] using hs
    . exact hback
    . exact hover

theorem grow_pairOf_eq_none {σ : Type} {shuffle : σ → List Nat → List Nat × σ}
    (hshuffle : ∀ state xs, (shuffle state xs).1.Perm xs) (hhere : here.isFinite)
    (hnext : next.isFinite) (hgap : (next - here).isFinite)
    (hodd : OddNeighbours (units here) (units next)) (state : σ) :
    (Growth.mk 1 2 1).grow shuffle state (pairOf here next) = none := by
  have hunits : units here < units next := hodd.lt
  obtain ⟨hmiddle, hge, hle, hless⟩ := midpoint_spec hhere hnext
    ((lt_iff_units hhere hnext).mpr hunits) hgap
  have hover : next ≤ midpoint here next := by
    rw [le_iff_units hmiddle hnext] at hle
    rw [lt_iff_units hmiddle hnext] at hless
    rw [le_iff_units hnext hmiddle]
    by_contra hlt
    exact hless.mp (not_le.mp hlt) hodd
  rw [Option.eq_none_iff_forall_ne_some]
  rintro ⟨t, state'⟩ hgrow
  refine not_grown_pairOf ?_ ?_ ?_ ?_ (grow_grown hshuffle hgrow)
  . exact decide_eq_true ((le_iff_units hhere hnext).mpr hunits.le)
  . exact decide_eq_false fun hnot => absurd ((le_iff_units hnext hhere).mp hnot) (by omega)
  . exact decide_eq_true hover
  . exact decide_eq_true hge

theorem grow_neighbours_eq_none :
    FiniteGaps (pairOf 1.0000000000000002 1.0000000000000004) ∧
      (1.0000000000000002 : Float) < 1.0000000000000004 ∧
      ¬ midpoint (1.0000000000000002 : Float) 1.0000000000000004 < 1.0000000000000004 ∧
      (Growth.mk 1 2 1).grow Generator.shuffle (.ofSeed 3)
        (pairOf 1.0000000000000002 1.0000000000000004) = none := by
  have hhere : (1.0000000000000002 : Float).isFinite := by decide +kernel
  have hnext : (1.0000000000000004 : Float).isFinite := by decide +kernel
  have hlt : (1.0000000000000002 : Float) < 1.0000000000000004 := by decide +kernel
  have hgap : ((1.0000000000000004 : Float) - 1.0000000000000002).isFinite := by decide +kernel
  have hover : ¬ midpoint (1.0000000000000002 : Float) 1.0000000000000004 <
      1.0000000000000004 := by decide +kernel
  refine ⟨finiteGaps_pairOf hhere hnext (by decide +kernel), hlt, hover, ?_⟩
  apply grow_pairOf_eq_none Generator.shuffle_perm hhere hnext hgap
  by_contra hnot
  exact hover ((midpoint_spec hhere hnext hlt hgap).2.2.2.mpr hnot)

end Endless

end CodeAppraisal.Classifier
