/-!
What a classifier says of a text, and why it may say nothing; what fitting one does to it.
-/
namespace CodeAppraisal.Classifier

inductive Label where
  | bad
  | good
  deriving DecidableEq, Repr

namespace Label

def index : Label → Nat
  | .bad => 0
  | .good => 1

def ofIndex (n : Nat) : Label := if n = 1 then .good else .bad

def name : Label → String
  | .bad => "bad"
  | .good => "good"

end Label

inductive ClassifierError where
  | emptyTrainingSet
  | lengthMismatch (samples labels : Nat)
  | singleClass
  | emptyVocabulary
  | dimensionMismatch (expected found : Nat)
  | notFitted
  deriving DecidableEq, Repr

def ClassifierError.message : ClassifierError → String
  | .emptyTrainingSet => "training set is empty"
  | .lengthMismatch samples labels => s!"got {samples} samples but {labels} labels"
  | .singleClass => "training labels contain a single class"
  | .emptyVocabulary => "empty vocabulary; documents contain no terms"
  | .dimensionMismatch expected found => s!"expected {expected} features, got {found}"
  | .notFitted => "model has not been fitted"

/-- A step that changes what is fitted, and may fail; what it changed before it failed stays. -/
abbrev Fitting (m : Type → Type) (σ : Type) := ExceptT ClassifierError (StateT σ m)

namespace Fitting

variable {m : Type → Type} [Monad m] {σ β γ : Type}

def on (step : Fitting m σ β) (start : σ) : m (Except ClassifierError β × σ) :=
  StateT.run (ExceptT.run step) start

def result (step : Fitting m σ β) (start : σ) : ExceptT ClassifierError m (β × σ) := ExceptT.mk do
  match ← step.on start with
  | (.ok b, s) => return .ok (b, s)
  | (.error e, _) => return .error e

section Lemmas

variable {s : σ}

@[simp]
theorem on_throw (e : ClassifierError) : (throw e : Fitting m σ β).on s = pure (.error e, s) := rfl

@[simp]
theorem on_get [LawfulMonad m] : (get : Fitting m σ σ).on s = pure (.ok s, s) := by
  have hlift : (get : Fitting m σ σ).on s =
      StateT.run (Except.ok <$> (get : StateT σ m σ)) s := rfl
  rw [hlift, StateT.run_map, StateT.run_get, map_pure]

@[simp]
theorem on_modify [LawfulMonad m] (change : σ → σ) :
    (modify change : Fitting m σ Unit).on s = pure (.ok (), change s) := by
  have hlift : (modify change : Fitting m σ Unit).on s =
      StateT.run (Except.ok <$> (modify change : StateT σ m Unit)) s := rfl
  rw [hlift, StateT.run_map, StateT.run_modify, map_pure]

@[simp]
theorem on_liftM [LawfulMonad m] (x : m β) :
    (liftM x : Fitting m σ β).on s = x >>= fun b => pure (.ok b, s) := by
  simp only [on, liftM, monadLift, MonadLift.monadLift, ExceptT.run_lift, StateT.run_map,
    StateT.run_lift, map_bind, map_pure]

@[simp]
theorem on_ofExcept (answer : Except ClassifierError β) :
    (MonadExcept.ofExcept answer : Fitting m σ β).on s = pure (answer, s) := by
  cases answer with
  | ok b => rfl
  | error e => rfl

@[simp]
theorem on_bind [LawfulMonad m] (step : Fitting m σ β) (next : β → Fitting m σ γ) :
    (step >>= next).on s = step.on s >>= fun
      | (.ok b, s') => (next b).on s'
      | (.error e, s') => pure (.error e, s') := by
  simp only [on, ExceptT.run_bind, StateT.run_bind]
  congr 1
  funext (answer, s')
  cases answer with
  | ok b => rfl
  | error e => rfl

end Lemmas

end Fitting

def updateAlong {α β : Type} (change : α → β → α) : List α → List β → List α
  | x :: xs, y :: ys => change x y :: updateAlong change xs ys
  | xs, _ => xs

theorem length_updateAlong {α β : Type} (change : α → β → α) (xs : List α) (ys : List β) :
    (updateAlong change xs ys).length = xs.length := by
  fun_induction updateAlong change xs ys with
  | case1 x xs y ys ih => rw [List.length_cons, ih, List.length_cons]
  | case2 => rfl

end CodeAppraisal.Classifier
