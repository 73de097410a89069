/-!
This module is about runs of steps, in which only some steps change a state: what a run leaves is
what the last of these leaves.
-/
namespace CodeAppraisal.Classifier

variable {σ τ : Type} {Leaves : σ → τ → σ → Prop} {Changes : τ → Prop}

inductive Run (Leaves : σ → τ → σ → Prop) : σ → List τ → σ → Prop where
  | nil (s : σ) : Run Leaves s [] s
  | cons {s s' s'' : σ} {t : τ} {steps : List τ} (hstep : Leaves s t s')
      (hrest : Run Leaves s' steps s'') : Run Leaves s (t :: steps) s''

namespace Run

theorem exists_of_leaves (h : ∀ s t, ∃ s', Leaves s t s') (s : σ) (steps : List τ) :
    ∃ s', Run Leaves s steps s' := by
  induction steps generalizing s with
  | nil => exact ⟨s, .nil s⟩
  | cons t steps ih =>
    obtain ⟨s', hs'⟩ := h s t
    obtain ⟨s'', hs''⟩ := ih s'
    exact ⟨s'', .cons hs' hs''⟩

theorem keeps (Inv : σ → Prop) (hstep : ∀ s t s', Inv s → Leaves s t s' → Inv s') {s s' : σ}
    {steps : List τ} (h : Run Leaves s steps s') (hs : Inv s) : Inv s' := by
  induction h with
  | nil => exact hs
  | cons hleaves _ ih => exact ih (hstep _ _ _ hs hleaves)

theorem eq_start {s s' : σ} (hkeep : ∀ t s', ¬ Changes t → Leaves s t s' → s' = s)
    {steps : List τ} (h : Run Leaves s steps s') (hsteps : ∀ t ∈ steps, ¬ Changes t) : s' = s := by
  induction h with
  | nil => rfl
  | cons hleaves _ ih =>
    rw [List.forall_mem_cons] at hsteps
    cases hkeep _ _ hsteps.1 hleaves
    exact ih hkeep hsteps.2

theorem of_append {s s' : σ} {before after : List τ} {t : τ}
    (h : Run Leaves s (before ++ t :: after) s') :
    ∃ s₁ s₂, Run Leaves s before s₁ ∧ Leaves s₁ t s₂ ∧ Run Leaves s₂ after s' := by
  induction before generalizing s with
  | nil =>
    cases h with
    | cons hleaves hrest => exact ⟨_, _, .nil s, hleaves, hrest⟩
  | cons u before ih =>
    cases h with
    | cons hleaves hrest =>
      obtain ⟨s₁, s₂, hbefore, ht, hafter⟩ := ih hrest
      exact ⟨s₁, s₂, .cons hleaves hbefore, ht, hafter⟩

end Run

theorem exists_last {steps : List τ} (h : ∃ t ∈ steps, Changes t) :
    ∃ before t after, steps = before ++ t :: after ∧ Changes t ∧ ∀ u ∈ after, ¬ Changes u := by
  induction steps with
  | nil => simp at h
  | cons t steps ih =>
    -- a step further on comes before this one as the last
    by_cases hlater : ∃ u ∈ steps, Changes u
    . obtain ⟨before, u, after, hsteps, hu⟩ := ih hlater
      exact ⟨t :: before, u, after, by rw [hsteps]; rfl, hu⟩
    . refine ⟨[], t, steps, rfl, ?_, ?_⟩
      . simpa [hlater] using h
      . intro u hu hchanges
        exact hlater ⟨u, hu, hchanges⟩

end CodeAppraisal.Classifier
