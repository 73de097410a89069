import CodeAppraisal.Proofs.ExactQuantity
import CodeAppraisal.Proofs.Text.Definitions
import CodeAppraisal.Score.Formula

/-!
This module shows that what is read off a text about its definitions fits together: where there is a
function with a name in small letters some function is counted, so no text earns points for its
names and loses others for having no definition, and a text that goes on keeps both.
-/
namespace CodeAppraisal

open Text

namespace FeatureVector

section Points

variable {K : Type} [Field K] [LinearOrder K] [ElementaryFunctions K] {f : FeatureVector K}

def EarnsNaming (f : FeatureVector K) : Prop := { f with properNaming := false }.points < f.points

/-- With one function there would be more points. -/
def LosesUndefined (f : FeatureVector K) : Prop := f.points < { f with numFunctions := 1 }.points

variable [IsStrictOrderedRing K]

theorem earnsNaming_iff : f.EarnsNaming ↔ f.properNaming = true := by
  unfold EarnsNaming points
  dsimp only
  cases f.properNaming with
  | false => simp
  | true =>
    simp only [CodeAppraisal.points, Bool.false_eq_true, if_true, if_false, iff_true]
    norm_num

theorem losesUndefined_iff : f.LosesUndefined ↔ f.numFunctions = 0 ∧ f.numClasses = 0 := by
  unfold LosesUndefined points
  dsimp only
  by_cases h : f.numFunctions = 0 ∧ f.numClasses = 0
  . simp only [h, CodeAppraisal.points]
    norm_num
  . have hdefined : (decide (f.numFunctions = 0) && decide (f.numClasses = 0)) = false := by
      simpa using h
    have hfunction : (decide (1 = 0) && decide (f.numClasses = 0)) = false := rfl
    rw [hdefined, hfunction, iff_false_right h]
    exact lt_irrefl _

end Points

end FeatureVector

section Texts

variable {α : Type} [Quantity α] {code : String}

theorem numFunctions_eq (code : String) :
    (FeatureVector.ofString code : FeatureVector α).numFunctions =
      countDefinitions "def".toList code.toList :=
  rfl

theorem properNaming_iff : (FeatureVector.ofString code : FeatureVector α).properNaming = true ↔
    Contains "def".toList isSmallStart code.toList :=
  occursBefore_iff fun c hc => isBlank_of_isWordChar (isWordChar_of_isSmallStart c hc)

theorem numFunctions_pos_iff : 0 < (FeatureVector.ofString code : FeatureVector α).numFunctions ↔
    Contains "def".toList isWordChar code.toList :=
  countDefinitions_pos_iff

theorem numFunctions_pos_of_properNaming
    (h : (FeatureVector.ofString code : FeatureVector α).properNaming = true) :
    0 < (FeatureVector.ofString code : FeatureVector α).numFunctions :=
  numFunctions_pos_iff.mpr ((properNaming_iff.mp h).imp isWordChar_of_isSmallStart)

theorem properNaming_append (more : String)
    (h : (FeatureVector.ofString code : FeatureVector α).properNaming = true) :
    (FeatureVector.ofString (code ++ more) : FeatureVector α).properNaming = true := by
  rw [properNaming_iff] at h ⊢
  rw [String.toList_append]
  exact h.append more.toList

theorem numFunctions_le_append (code more : String) :
    (FeatureVector.ofString code : FeatureVector α).numFunctions ≤
      (FeatureVector.ofString (code ++ more) : FeatureVector α).numFunctions := by
  have hkeyword : ∀ c ∈ "def".toList, isBlank c = false := by
    simp [isBlank]
  rw [numFunctions_eq, numFunctions_eq, String.toList_append]
  exact countDefinitions_le_append hkeyword _ _

end Texts

/-- Functions are counted just where the keyword, white space and a word character stand, and as
many as a search finds. Where a name in small letters is found some function is counted, so that no
text earns the points for names and loses those for definitions. A text that goes on loses
neither. -/
theorem definitions_agree {K α : Type} [Field K] [LinearOrder K] [IsStrictOrderedRing K]
    [ElementaryFunctions K] [Quantity α] (code : String) :
    let f : FeatureVector α := .ofString code
    f.numFunctions = ((Pattern.definition "def".toList).find [] code.toList).length ∧
      (0 < f.numFunctions ↔ Contains "def".toList isWordChar code.toList) ∧
      (f.properNaming = true ↔ ∃ o, Pattern.smallDefinition.Occurs code.toList o) ∧
      (f.properNaming = true → 1 ≤ f.numFunctions) ∧
      ¬((FeatureVector.ofString code : FeatureVector K).EarnsNaming ∧
        (FeatureVector.ofString code : FeatureVector K).LosesUndefined) ∧
      ∀ more, let f' : FeatureVector α := .ofString (code ++ more)
        (f.properNaming = true → f'.properNaming = true) ∧ f.numFunctions ≤ f'.numFunctions := by
  intro f
  refine ⟨?_, numFunctions_pos_iff, ?_, numFunctions_pos_of_properNaming, ?_, ?_⟩
  . exact (Pattern.length_find_definition _ _ _).symm
  . rw [Pattern.smallDefinition, Pattern.exists_occurs_iff]
    exact properNaming_iff
  . rw [FeatureVector.earnsNaming_iff, FeatureVector.losesUndefined_iff]
    rintro ⟨hnaming, hnone, -⟩
    have := numFunctions_pos_of_properNaming hnaming
    omega
  . intro more
    exact ⟨properNaming_append more, numFunctions_le_append code more⟩

theorem definitions_agree_swallowed :
    let f : FeatureVector ℝ := .ofString "def def f"
    let f' : FeatureVector ℝ := .ofString ("def def f" ++ "(x)\ndef G")
    f.properNaming = true ∧ f.numFunctions = 1 ∧ 1 ≤ f.numFunctions ∧ f'.properNaming = true ∧
      f'.numFunctions = 2 ∧ f.numFunctions ≤ f'.numFunctions := by
  intro f f'
  obtain ⟨-, -, -, hcounted, -, hmore⟩ := definitions_agree (K := ℝ) (α := ℝ) "def def f"
  have hnaming : f.properNaming = true := by decide +kernel
  have hone : f.numFunctions = 1 := by decide +kernel
  have htwo : f'.numFunctions = 2 := by decide +kernel
  obtain ⟨hkept, hle⟩ := hmore "(x)\ndef G"
  exact ⟨hnaming, hone, hcounted hnaming, hkept hnaming, htwo, hle⟩

end CodeAppraisal
