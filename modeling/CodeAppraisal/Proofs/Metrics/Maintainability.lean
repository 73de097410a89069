import CodeAppraisal.Metrics.Lines
import CodeAppraisal.Metrics.Maintainability
import CodeAppraisal.Proofs.ExactQuantity

/-!
This module shows how the maintainability index goes with the measures of a module. More volume,
complexity and lines never raise it. Comments raise it up to some percentage; from there on they
lower and raise it in turns, for their bonus is a sine.
-/
namespace CodeAppraisal.Metrics

open Quantity

section Size

variable {K : Type} [Field K] [LinearOrder K] [IsStrictOrderedRing K] [ElementaryFunctions K]
  {volume volume' : K} {complexity complexity' lines lines' : Nat}

def commentBonus (percent : K) : K :=
  ElementaryFunctions.sin (ElementaryFunctions.sqrt (2.46 * (percent * ElementaryFunctions.degree)))

theorem rawMaintainability_eq (volume : K) (complexity lines : Nat) (percent : K) :
    rawMaintainability volume complexity lines percent =
      (171 - 5.2 * ElementaryFunctions.ln volume - 0.23 * complexity
        - 16.2 * ElementaryFunctions.ln (lines : K) + 50 * commentBonus percent) * 100 / 171 := by
  have hraw : rawMaintainability volume complexity lines percent =
      (171.0 - 5.2 * ElementaryFunctions.ln volume - 0.23 * complexity
        - 16.2 * ElementaryFunctions.ln (lines : K) + 50.0 * commentBonus percent)
          * 100.0 / 171.0 := rfl
  rw [hraw]
  norm_num

theorem maintainability_eq (volume : K) (complexity lines : Nat) (percent : K) :
    maintainability volume complexity lines percent =
      if volume ≤ 0 ∨ lines = 0 then 100
      else clamp (rawMaintainability volume complexity lines percent) 0 100 := by
  have hzero : (0.0 : K) = 0 := by norm_num
  have hhundred : (100.0 : K) = 100 := by norm_num
  rw [← hzero, ← hhundred]
  unfold maintainability
  simp only [le_eq_decide, Bool.or_eq_true, decide_eq_true_eq, beq_iff_eq]

theorem maintainability_mem (volume : K) (complexity lines : Nat) (percent : K) :
    0 ≤ maintainability volume complexity lines percent ∧
      maintainability volume complexity lines percent ≤ 100 := by
  have hscale : (0 : K) ≤ 100 := by norm_num
  rw [maintainability_eq]
  split
  . exact ⟨hscale, le_refl 100⟩
  . exact ⟨le_clamp _ hscale, clamp_le _ hscale⟩

variable [LawfulLogarithm K]

theorem rawMaintainability_le (hpositive : 0 < volume) (hvolume : volume ≤ volume')
    (hcomplexity : complexity ≤ complexity') (hsome : lines ≠ 0) (hlines : lines ≤ lines')
    (percent : K) : rawMaintainability volume' complexity' lines' percent ≤
      rawMaintainability volume complexity lines percent := by
  have hvolumes := LawfulLogarithm.ln_le_ln hpositive hvolume
  have hlog : ElementaryFunctions.ln (lines : K) ≤ ElementaryFunctions.ln (lines' : K) := by
    apply LawfulLogarithm.ln_le_ln
    . exact_mod_cast Nat.pos_of_ne_zero hsome
    . exact_mod_cast hlines
  have hcount : (complexity : K) ≤ complexity' := by exact_mod_cast hcomplexity
  rw [rawMaintainability_eq, rawMaintainability_eq]
  linarith

theorem maintainability_antitone (hvolume : volume ≤ volume')
    (hcomplexity : complexity ≤ complexity') (hlines : lines ≤ lines') (percent : K) :
    0 ≤ maintainability volume' complexity' lines' percent ∧
      maintainability volume' complexity' lines' percent ≤
        maintainability volume complexity lines percent ∧
      maintainability volume complexity lines percent ≤ 100 := by
  have hsmall := maintainability_mem volume complexity lines percent
  have hlarge := maintainability_mem volume' complexity' lines' percent
  refine ⟨hlarge.1, ?_, hsmall.2⟩
  by_cases htrivial : volume ≤ 0 ∨ lines = 0
  . rw [maintainability_eq volume, if_pos htrivial]
    exact hlarge.2
  . obtain ⟨hpositive, hsome⟩ := not_or.mp htrivial
    rw [not_le] at hpositive
    have hnontrivial : ¬ (volume' ≤ 0 ∨ lines' = 0) := by
      rw [not_or, not_le]
      exact ⟨hpositive.trans_le hvolume, by omega⟩
    rw [maintainability_eq, maintainability_eq, if_neg htrivial, if_neg hnontrivial]
    apply clamp_le_clamp (by norm_num)
    exact rawMaintainability_le hpositive hvolume hcomplexity hsome hlines percent

theorem maintainability_antitone_hundredfold :
    (1 / 2 : ℝ) ≤ 5000 ∧ 2 ≤ 40 ∧ 10 ≤ 400 ∧
      maintainability (5000 : ℝ) 40 400 25 ≤ maintainability (1 / 2) 2 10 25 := by
  have hvolume : (1 / 2 : ℝ) ≤ 5000 := by norm_num
  refine ⟨hvolume, by decide, by decide, ?_⟩
  exact (maintainability_antitone hvolume (by decide) (by decide) 25).2.1

end Size

theorem sin_neg_iff {x : ℝ} (hx : 0 ≤ x) :
    Real.sin x < 0 ↔ ∃ k : ℕ, (2 * k + 1) * Real.pi < x ∧ x < (2 * k + 2) * Real.pi := by
  have hpi := Real.pi_pos
  constructor
  . intro hneg
    -- the turn that the angle is in
    let k := ⌊x / (2 * Real.pi)⌋₊
    have hstart : k * (2 * Real.pi) ≤ x := by
      rw [← le_div_iff₀ (by positivity)]
      exact Nat.floor_le (by positivity)
    have hstop : x < (k + 1) * (2 * Real.pi) := by
      rw [← div_lt_iff₀ (by positivity)]
      exact Nat.lt_floor_add_one _
    refine ⟨k, ?_, by linarith⟩
    by_contra hhalf
    rw [not_lt] at hhalf
    have hnonneg : 0 ≤ Real.sin (x - k * (2 * Real.pi)) :=
      Real.sin_nonneg_of_nonneg_of_le_pi (by linarith) (by linarith)
    rw [Real.sin_sub_nat_mul_two_pi] at hnonneg
    linarith
  . rintro ⟨k, hlow, hhigh⟩
    have hpos : 0 < Real.sin ((k + 1 : ℕ) * (2 * Real.pi) - x) := by
      apply Real.sin_pos_of_pos_of_lt_pi
      . push_cast
        linarith
      . push_cast
        linarith
    rw [Real.sin_nat_mul_two_pi_sub] at hpos
    linarith

/-- The percentage of comments at which their bonus has grown and is used up again. -/
noncomputable def bonusEnd : ℝ := 180.0 * Real.pi / 2.46

def Overcommented (percent : ℝ) : Prop :=
  ∃ k : ℕ, ((2 * k + 1 : ℕ) : ℝ) ^ 2 * bonusEnd < percent ∧
    percent < ((2 * k + 2 : ℕ) : ℝ) ^ 2 * bonusEnd

theorem bonusEnd_eq : bonusEnd = 180 * Real.pi / 2.46 := by
  norm_num [bonusEnd]

theorem bonusEnd_pos : 0 < bonusEnd := by
  have hpi := Real.pi_pos
  rw [bonusEnd_eq]
  positivity

section Comments

variable {volume percent : ℝ} {complexity lines : Nat}

theorem sq_mul_pi (x : ℝ) :
    (x * Real.pi) ^ 2 = 2.46 * (x ^ 2 * bonusEnd * (Real.pi / 180)) := by
  rw [bonusEnd_eq]
  ring

theorem angle_lt_angle_iff {percent' : ℝ} :
    2.46 * (percent * (Real.pi / 180)) < 2.46 * (percent' * (Real.pi / 180)) ↔
      percent < percent' := by
  have hdegree : 0 < Real.pi / 180 := by positivity
  rw [mul_lt_mul_iff_right₀ (by norm_num), mul_lt_mul_iff_left₀ hdegree]

theorem commentBonus_neg_iff : commentBonus percent < 0 ↔ Overcommented percent := by
  have hpi := Real.pi_pos
  have hlow (k : ℕ) : (2 * k + 1) * Real.pi < Real.sqrt (2.46 * (percent * (Real.pi / 180))) ↔
      ((2 * k + 1 : ℕ) : ℝ) ^ 2 * bonusEnd < percent := by
    push_cast
    rw [Real.lt_sqrt (by positivity), sq_mul_pi, angle_lt_angle_iff]
  have hhigh (k : ℕ) : Real.sqrt (2.46 * (percent * (Real.pi / 180))) < (2 * k + 2) * Real.pi ↔
      percent < ((2 * k + 2 : ℕ) : ℝ) ^ 2 * bonusEnd := by
    push_cast
    rw [Real.sqrt_lt' (by positivity), sq_mul_pi, angle_lt_angle_iff]
  have hbonus : commentBonus percent = Real.sin (Real.sqrt (2.46 * (percent * (Real.pi / 180)))) :=
    rfl
  rw [hbonus, sin_neg_iff (Real.sqrt_nonneg _), Overcommented]
  simp only [hlow, hhigh]

theorem commentBonus_zero : commentBonus (0 : ℝ) = 0 := by
  have hbonus : commentBonus (0 : ℝ) = Real.sin (Real.sqrt (2.46 * (0 * (Real.pi / 180)))) := rfl
  rw [hbonus]
  simp

theorem rawMaintainability_lt_iff : rawMaintainability volume complexity lines percent <
    rawMaintainability volume complexity lines 0 ↔ Overcommented percent := by
  rw [← commentBonus_neg_iff, rawMaintainability_eq, rawMaintainability_eq, commentBonus_zero]
  constructor
  . intro hlt
    linarith
  . intro hneg
    linarith

theorem not_overcommented (h : percent ≤ bonusEnd) : ¬ Overcommented percent := by
  rintro ⟨k, hlow, -⟩
  have hone : (1 : ℝ) ≤ ((2 * k + 1 : ℕ) : ℝ) ^ 2 := by
    apply one_le_pow₀
    exact_mod_cast Nat.le_add_left 1 (2 * k)
  have hfirst := le_mul_of_one_le_left bonusEnd_pos.le hone
  linarith

theorem overcommented_300 : Overcommented 300 := by
  have hlow := Real.pi_gt_three
  have hhigh := Real.pi_lt_d2
  refine ⟨0, ?_, ?_⟩
  . rw [bonusEnd_eq]
    norm_num
    linarith
  . rw [bonusEnd_eq]
    norm_num
    linarith

theorem maintainability_lt_iff : maintainability volume complexity lines percent <
    maintainability volume complexity lines 0 ↔
      0 < volume ∧ lines ≠ 0 ∧ Overcommented percent ∧
        0 < rawMaintainability volume complexity lines 0 ∧
        rawMaintainability volume complexity lines percent < 100 := by
  rw [maintainability_eq, maintainability_eq]
  by_cases htrivial : volume ≤ 0 ∨ lines = 0
  . rw [if_pos htrivial, if_pos htrivial]
    constructor
    . intro hlt
      exact absurd hlt (lt_irrefl 100)
    . rintro ⟨hvolume, hlines, -⟩
      exact absurd htrivial (not_or.mpr ⟨not_le.mpr hvolume, hlines⟩)
  . obtain ⟨hvolume, hlines⟩ := not_or.mp htrivial
    rw [if_neg htrivial, if_neg htrivial, clamp_lt_clamp_iff (by norm_num),
      rawMaintainability_lt_iff]
    simp only [not_le.mp hvolume, ne_eq, hlines, not_false_eq_true, true_and]

/-- Comments lower the index just where there are too many of them, unless it is cut to its scale or
the module is trivial. They do not as long as their bonus lasts. -/
theorem maintainability_of_comments (volume : ℝ) (complexity lines : Nat) (percent : ℝ) :
    (maintainability volume complexity lines percent < maintainability volume complexity lines 0 ↔
      0 < volume ∧ lines ≠ 0 ∧ Overcommented percent ∧
        0 < rawMaintainability volume complexity lines 0 ∧
        rawMaintainability volume complexity lines percent < 100) ∧
      (percent ≤ bonusEnd → maintainability volume complexity lines 0 ≤
        maintainability volume complexity lines percent) := by
  refine ⟨maintainability_lt_iff, ?_⟩
  intro hfew
  rw [← not_lt, maintainability_lt_iff]
  rintro ⟨-, -, hmany, -⟩
  exact not_overcommented hfew hmany

theorem maintainability_of_comments_quarter :
    25 ≤ bonusEnd ∧ maintainability (300 : ℝ) 6 40 0 ≤ maintainability 300 6 40 25 := by
  have hfew : 25 ≤ bonusEnd := by
    have hpi := Real.pi_gt_three
    rw [bonusEnd_eq]
    norm_num
    linarith
  exact ⟨hfew, (maintainability_of_comments 300 6 40 25).2 hfew⟩

def threefoldComments : LineCounts where
  linesOfCode := 4
  logicalLines := 1
  sourceLines := 1
  comments := 3
  singleComments := 3
  multi := 0
  blank := 0

theorem exists_comments_lower_maintainability :
    ¬ ∀ (volume : ℝ) (complexity lines : Nat) (c : LineCounts),
      maintainability volume complexity lines 0 ≤
        maintainability volume complexity lines c.commentPercentage := by
  intro h
  have hpercent : threefoldComments.commentPercentage = (300 : ℝ) := by
    simp only [LineCounts.commentPercentage, threefoldComments]
    norm_num
  have hbare : rawMaintainability (1 : ℝ) 0 1 0 = 100 := by
    rw [rawMaintainability_eq, commentBonus_zero]
    norm_num [LawfulLogarithm.ln_one]
  have hmany : rawMaintainability (1 : ℝ) 0 1 300 < 100 := by
    rw [← hbare]
    exact rawMaintainability_lt_iff.mpr overcommented_300
  have hle := h 1 0 1 threefoldComments
  rw [hpercent] at hle
  apply not_lt.mpr hle
  exact maintainability_lt_iff.mpr
    ⟨one_pos, one_ne_zero, overcommented_300, by rw [hbare]; norm_num, hmany⟩

end Comments

end CodeAppraisal.Metrics
