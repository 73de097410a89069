/-!
Sets of characters given by their boundaries.
-/
namespace CodeAppraisal.Text

/--
A set of code points: the first one in it, the first one after that is not, the first one after
that is again, and so on.
-/
structure CodePointSet where
  boundaries : Array Nat

namespace CodePointSet

def countUpTo (s : CodePointSet) (n : Nat) : Nat :=
  go s.boundaries.size 0 s.boundaries.size
where
  go : Nat → Nat → Nat → Nat
    | 0, lo, _ => lo
    | fuel + 1, lo, hi =>
      if lo < hi then
        let mid := (lo + hi) / 2
        if s.boundaries.getD mid 0 ≤ n then go fuel (mid + 1) hi else go fuel lo mid
      else lo

def contains (s : CodePointSet) (c : Char) : Bool := s.countUpTo c.toNat % 2 == 1

end CodePointSet

end CodeAppraisal.Text
