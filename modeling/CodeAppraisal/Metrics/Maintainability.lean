import CodeAppraisal.Quantity

/-!
The maintainability index: 100 for a trivial module, less the more there is to it.
-/
namespace CodeAppraisal.Metrics

variable {α : Type} [Quantity α]

open Quantity

def rawMaintainability (volume : α) (complexity lines : Nat) (commentPercent : α) : α :=
  let comments := sqrt (2.46 * (commentPercent * degree))
  let index := 171.0 - 5.2 * ln volume - 0.23 * ofNat complexity - 16.2 * ln (ofNat lines) +
    50.0 * sin comments
  index * 100.0 / 171.0

def maintainability (volume : α) (complexity lines : Nat) (commentPercent : α) : α :=
  if le volume 0.0 || lines == 0 then 100.0
  else clamp (rawMaintainability volume complexity lines commentPercent) 0.0 100.0

end CodeAppraisal.Metrics
