import CodeAppraisal.Quantity
import Mathlib

/-!
This module has the arithmetic of ordered fields as an exact counterpart to that of floating-point
numbers, and says what the operations of quantities are there.
-/
namespace CodeAppraisal

class ElementaryFunctions (K : Type) where
  round : K → K
  sqrt : K → K
  ln : K → K
  log2 : K → K
  sin : K → K
  degree : K

instance (priority := low) Quantity.exact {K : Type} [Field K] [LinearOrder K]
    [ElementaryFunctions K] : Quantity K where
  add := inferInstance
  sub := inferInstance
  mul := inferInstance
  div := inferInstance
  ofScientific := inferInstance
  ofNat n := n
  le a b := decide (a ≤ b)
  lt a b := decide (a < b)
  round := ElementaryFunctions.round
  sqrt := ElementaryFunctions.sqrt
  ln := ElementaryFunctions.ln
  log2 := ElementaryFunctions.log2
  sin := ElementaryFunctions.sin
  degree := ElementaryFunctions.degree
  isFinite _ := true

def roundHalfAway {K : Type} [Field K] [LinearOrder K] [FloorRing K] (x : K) : K :=
  if 0 ≤ x then (⌊x + 1 / 2⌋ : K) else (⌈x - 1 / 2⌉ : K)

class LawfulRound (K : Type) [Field K] [LinearOrder K] [FloorRing K] [ElementaryFunctions K] :
    Prop where
  round_eq (x : K) : ElementaryFunctions.round x = roundHalfAway x

class LawfulRoot (K : Type) [Field K] [LinearOrder K] [ElementaryFunctions K] : Prop where
  sqrt_nonneg (x : K) : 0 ≤ ElementaryFunctions.sqrt x
  sqrt_mul_sqrt {x : K} (h : 0 ≤ x) : ElementaryFunctions.sqrt x * ElementaryFunctions.sqrt x = x

class LawfulLogarithm (K : Type) [Field K] [LinearOrder K] [ElementaryFunctions K] : Prop where
  ln_one : ElementaryFunctions.ln (1 : K) = 0
  ln_le_ln {x y : K} (hx : 0 < x) (h : x ≤ y) :
    ElementaryFunctions.ln x ≤ ElementaryFunctions.ln y

class LawfulBinaryLogarithm (K : Type) [Field K] [LinearOrder K] [ElementaryFunctions K] :
    Prop where
  log2_two : ElementaryFunctions.log2 (2 : K) = 1
  log2_le_log2 {x y : K} (hx : 0 < x) (h : x ≤ y) :
    ElementaryFunctions.log2 x ≤ ElementaryFunctions.log2 y

noncomputable instance : ElementaryFunctions ℝ where
  round := roundHalfAway
  sqrt := Real.sqrt
  ln := Real.log
  log2 := Real.logb 2
  sin := Real.sin
  degree := Real.pi / 180

instance : LawfulRound ℝ where
  round_eq _ := rfl

instance : LawfulRoot ℝ where
  sqrt_nonneg := Real.sqrt_nonneg
  sqrt_mul_sqrt := Real.mul_self_sqrt

instance : LawfulLogarithm ℝ where
  ln_one := Real.log_one
  ln_le_ln := Real.log_le_log

instance : LawfulBinaryLogarithm ℝ where
  log2_two := Real.logb_self_eq_one one_lt_two
  log2_le_log2 := Real.logb_le_logb_of_le one_lt_two

variable {K : Type} [Field K] [LinearOrder K]

section Round

variable [IsStrictOrderedRing K] [FloorRing K]

theorem roundHalfAway_intCast (n : Int) : roundHalfAway (n : K) = n := by
  unfold roundHalfAway
  have hfloor : ⌊(n : K) + 1 / 2⌋ = n := by
    rw [Int.floor_eq_iff]
    constructor <;> norm_num
  have hceil : ⌈(n : K) - 1 / 2⌉ = n := by
    rw [Int.ceil_eq_iff]
    constructor <;> norm_num
  rw [hfloor, hceil]
  split <;> rfl

theorem roundHalfAway_monotone : Monotone (roundHalfAway : K → K) := by
  intro x y hxy
  unfold roundHalfAway
  split
  . next hx =>
    rw [if_pos (hx.trans hxy)]
    exact_mod_cast Int.floor_le_floor (by linarith)
  . next hx =>
    split
    . next hy =>
      -- below zero the result is at most zero, from zero on at least zero
      have hlo : ⌈x - 1 / 2⌉ ≤ 0 := Int.ceil_le.mpr (by push_cast; linarith)
      have hhi : 0 ≤ ⌊y + 1 / 2⌋ := Int.le_floor.mpr (by push_cast; linarith)
      exact_mod_cast hlo.trans hhi
    . exact_mod_cast Int.ceil_le_ceil (by linarith)

end Round

namespace Quantity

variable [ElementaryFunctions K]

@[simp]
theorem ofNat_eq_cast (n : Nat) : (ofNat n : K) = n := rfl

@[simp]
theorem le_eq_decide (a b : K) : le a b = decide (a ≤ b) := rfl

@[simp]
theorem lt_eq_decide (a b : K) : lt a b = decide (a < b) := rfl

theorem atLeast_eq_max (lo x : K) : atLeast lo x = max lo x := by
  simp only [atLeast, le_eq_decide, decide_eq_true_eq, max_def]

theorem atMost_eq_min (hi x : K) : atMost hi x = min hi x := by
  simp only [atMost, le_eq_decide, decide_eq_true_eq]
  split
  . next hle => rw [min_eq_right hle]
  . next hle => rw [min_eq_left (not_le.mp hle).le]

theorem clamp_eq {lo hi : K} (x : K) (h : lo ≤ hi) : clamp x lo hi = max lo (min x hi) := by
  simp only [clamp, lt_eq_decide, decide_eq_true_eq]
  split
  . next hlo => rw [max_eq_left ((min_le_left x hi).trans hlo.le)]
  . next hlo =>
    split
    . next hhi => rw [min_eq_right hhi.le, max_eq_right h]
    . next hhi => rw [min_eq_left (not_lt.mp hhi), max_eq_right (not_lt.mp hlo)]

theorem le_clamp {lo hi : K} (x : K) (h : lo ≤ hi) : lo ≤ clamp x lo hi := by
  rw [clamp_eq x h]
  exact le_max_left lo _

theorem clamp_le {lo hi : K} (x : K) (h : lo ≤ hi) : clamp x lo hi ≤ hi := by
  rw [clamp_eq x h]
  exact max_le h (min_le_right x hi)

theorem clamp_le_clamp {lo hi x y : K} (h : lo ≤ hi) (hxy : x ≤ y) :
    clamp x lo hi ≤ clamp y lo hi := by
  rw [clamp_eq x h, clamp_eq y h]
  exact max_le_max_left lo (min_le_min_right hi hxy)

theorem clamp_lt_clamp_iff {lo hi x y : K} (h : lo < hi) :
    clamp x lo hi < clamp y lo hi ↔ x < y ∧ lo < y ∧ x < hi := by
  constructor
  . intro hlt
    have hlo := (le_clamp x h.le).trans_lt hlt
    have hhi := hlt.trans_le (clamp_le y h.le)
    rw [clamp_eq y h.le, lt_max_iff, lt_min_iff] at hlo
    rw [clamp_eq x h.le, max_lt_iff, min_lt_iff] at hhi
    refine ⟨?_, (hlo.resolve_left (lt_irrefl lo)).1, hhi.2.resolve_right (lt_irrefl hi)⟩
    by_contra hge
    exact absurd hlt (not_lt.mpr (clamp_le_clamp h.le (not_lt.mp hge)))
  . rintro ⟨hxy, hlo, hhi⟩
    rw [clamp_eq x h.le, clamp_eq y h.le]
    apply lt_max_of_lt_right
    exact max_lt (lt_min hlo h) (lt_min (min_lt_of_left_lt hxy) (min_lt_of_left_lt hhi))

variable [IsStrictOrderedRing K]

theorem sum_eq_sum (xs : List K) : sum xs = xs.sum := by
  have hzero : (0.0 : K) = 0 := by norm_num
  rw [List.sum_eq_foldl, ← hzero]
  rfl

variable [FloorRing K] [LawfulRound K]

theorem round2_monotone : Monotone (round2 : K → K) := by
  intro x y hxy
  have hround := roundHalfAway_monotone (K := K) (a := x * 100) (b := y * 100) (by linarith)
  simp only [round2, round, LawfulRound.round_eq]
  norm_num
  linarith

theorem round2_intCast (n : Int) : round2 (n : K) = n := by
  have hround := roundHalfAway_intCast (K := K) (n * 100)
  push_cast at hround
  simp only [round2, round, LawfulRound.round_eq]
  norm_num [hround]

end Quantity

end CodeAppraisal
