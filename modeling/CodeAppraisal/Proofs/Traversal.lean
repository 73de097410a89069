/-!
This module is about monads in which a step that gives a value does nothing else, and says when a
traversal of a list gives something there.
-/
namespace CodeAppraisal

class GivesValues (m : Type → Type) [Monad m] : Prop where
  pure_inj {β : Type} {b c : β} : (pure b : m β) = pure c → b = c
  bind_eq_pure {β γ : Type} {x : m β} {f : β → m γ} {c : γ} :
    x >>= f = pure c → ∃ b, x = pure b ∧ f b = pure c

instance : GivesValues Id where
  pure_inj h := h
  bind_eq_pure h := ⟨_, rfl, h⟩

instance : GivesValues Option where
  pure_inj h := Option.some.inj h
  bind_eq_pure h := Option.bind_eq_some_iff.mp h

instance {ε : Type} : GivesValues (Except ε) where
  pure_inj h := Except.ok.inj h
  bind_eq_pure {_ _ x _ _} h := by
    cases x with
    | error e => cases h
    | ok b => exact ⟨b, rfl, h⟩

instance {ε : Type} {m : Type → Type} [Monad m] [GivesValues m] : GivesValues (ExceptT ε m) where
  pure_inj h := Except.ok.inj (GivesValues.pure_inj (m := m) h)
  bind_eq_pure {_ _ _ _ _} h := by
    obtain ⟨answer, hanswer, h⟩ := GivesValues.bind_eq_pure (m := m) h
    cases answer with
    | error e => cases GivesValues.pure_inj (m := m) h
    | ok b => exact ⟨b, hanswer, h⟩

variable {m : Type → Type} [Monad m] [LawfulMonad m] {β γ : Type} {f : β → m γ} {xs : List β}
  {ys : List γ}

theorem exists_mapM (h : ∀ x ∈ xs, ∃ y, f x = pure y) : ∃ ys, xs.mapM f = pure ys := by
  induction xs with
  | nil => exact ⟨[], List.mapM_nil⟩
  | cons x xs ih =>
    rw [List.forall_mem_cons] at h
    obtain ⟨y, hy⟩ := h.1
    obtain ⟨ys, hys⟩ := ih h.2
    exact ⟨y :: ys, by rw [List.mapM_cons, hy, pure_bind, hys, pure_bind]⟩

variable [GivesValues m]

theorem mapM_eq_pure_iff : xs.mapM f = pure ys ↔ xs.map f = ys.map pure := by
  induction xs generalizing ys with
  | nil =>
    rw [List.mapM_nil, List.map_nil]
    constructor
    . intro h
      rw [← GivesValues.pure_inj h, List.map_nil]
    . intro h
      rw [List.map_eq_nil_iff.mp h.symm]
  | cons x xs ih =>
    rw [List.mapM_cons, List.map_cons]
    constructor
    . intro h
      obtain ⟨y, hy, h⟩ := GivesValues.bind_eq_pure h
      obtain ⟨ys', hys', h⟩ := GivesValues.bind_eq_pure h
      rw [← GivesValues.pure_inj h, List.map_cons, hy, ih.mp hys']
    . intro h
      cases ys with
      | nil => cases h
      | cons y ys =>
        injection h with hy hys
        rw [hy, pure_bind, ih.mpr hys, pure_bind]

theorem mapM_eq_some {f : β → Option γ} {g : β → γ} (h : ∀ x ∈ xs, f x = some (g x)) :
    xs.mapM f = some (xs.map g) := by
  rw [← Option.pure_def, mapM_eq_pure_iff, List.map_map]
  exact List.map_congr_left h

theorem length_of_mapM (h : xs.mapM f = pure ys) : ys.length = xs.length := by
  simpa using (congrArg List.length (mapM_eq_pure_iff.mp h)).symm

theorem exists_of_mem_mapM (h : xs.mapM f = pure ys) {y : γ} (hy : y ∈ ys) :
    ∃ x ∈ xs, f x = pure y := by
  have hmem : (pure y : m γ) ∈ xs.map f := by
    rw [mapM_eq_pure_iff.mp h]
    exact List.mem_map_of_mem hy
  exact List.mem_map.mp hmem

end CodeAppraisal
