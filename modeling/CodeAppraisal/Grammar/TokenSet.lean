/-!
Sets of tokens, as bits of two machine words. A grammar has at most 128 tokens.
-/
namespace CodeAppraisal.Grammar

structure TokenSet where
  low : UInt64
  high : UInt64
  deriving DecidableEq, Hashable, Inhabited

namespace TokenSet

def empty : TokenSet := ⟨0, 0⟩

def singleton (t : Nat) : TokenSet :=
  if t < 64 then ⟨1 <<< t.toUInt64, 0⟩ else ⟨0, 1 <<< (t - 64).toUInt64⟩

@[inline] def union (a b : TokenSet) : TokenSet := ⟨a.low ||| b.low, a.high ||| b.high⟩

@[inline] def contains (s : TokenSet) (t : Nat) : Bool :=
  if t < 64 then (s.low >>> t.toUInt64) &&& 1 == 1
  else (s.high >>> (t - 64).toUInt64) &&& 1 == 1

def insert (s : TokenSet) (t : Nat) : TokenSet := s.union (singleton t)

@[inline] def isEmpty (s : TokenSet) : Bool := s.low == 0 && s.high == 0

@[inline] def without (a b : TokenSet) : TokenSet := ⟨a.low &&& ~~~b.low, a.high &&& ~~~b.high⟩

@[inline] def meets (a b : TokenSet) : Bool := (a.low &&& b.low) != 0 || (a.high &&& b.high) != 0

def ofList (ts : List Nat) : TokenSet := ts.foldl insert empty

end TokenSet

end CodeAppraisal.Grammar
