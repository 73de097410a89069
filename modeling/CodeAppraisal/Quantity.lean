/-!
The arithmetic that measures, probabilities and scores are worked out in. The program uses
floating-point numbers; what is said about the formulas can be said about exact numbers.
-/
namespace CodeAppraisal

class Quantity (α : Type) where
  add : Add α
  sub : Sub α
  mul : Mul α
  div : Div α
  ofScientific : OfScientific α
  ofNat : Nat → α
  le : α → α → Bool
  lt : α → α → Bool
  /-- The nearest whole number; a half goes away from zero. -/
  round : α → α
  sqrt : α → α
  ln : α → α
  log2 : α → α
  sin : α → α
  degree : α
  isFinite : α → Bool

def addUp (counts : List Nat) : Nat := counts.foldr (· + ·) 0

-- the zero is given, for the one that is found depends on the algebra that is known
theorem addUp_eq_sum (counts : List Nat) : addUp counts = @List.sum Nat _ Zero.ofOfNat0 counts :=
  rfl

namespace Quantity

variable {α : Type} [Quantity α]

-- Numbers that have operations of their own keep those.

instance (priority := low) : Add α := Quantity.add

instance (priority := low) : Sub α := Quantity.sub

instance (priority := low) : Mul α := Quantity.mul

instance (priority := low) : Div α := Quantity.div

instance (priority := low) : OfScientific α := Quantity.ofScientific

def round2 (x : α) : α := round (x * 100.0) / 100.0

/-- The nearest value between two bounds; what compares with neither stays. -/
def clamp (x lo hi : α) : α := if lt x lo then lo else if lt hi x then hi else x

def atLeast (lo x : α) : α := if le lo x then x else lo

def atMost (hi x : α) : α := if le x hi then x else hi

def sum (xs : List α) : α := xs.foldl (· + ·) 0.0

end Quantity

instance : Quantity Float where
  add := inferInstance
  sub := inferInstance
  mul := inferInstance
  div := inferInstance
  ofScientific := inferInstance
  ofNat := Float.ofNat
  le a b := a ≤ b
  lt a b := a < b
  round := Float.round
  sqrt := Float.sqrt
  ln := Float.log
  log2 := Float.log2
  sin := Float.sin
  degree := 3.14159265358979323846264338327950288 / 180.0
  isFinite := Float.isFinite

end CodeAppraisal
