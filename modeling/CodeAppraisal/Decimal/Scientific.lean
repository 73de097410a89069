/-!
Floating-point numbers from decimal digits.
-/
namespace CodeAppraisal.Decimal

/-- The number `m * 10 ^ e`, rounded to the nearest one. What is out of reach of all exponents is
cut short. -/
def ofScientific (m : Nat) (e : Int) : Float :=
  let size : Int := (Nat.toDigits 10 m).length
  if m = 0 || e + size < -400 then 0.0
  else if e + size > 400 then 1.0 / 0.0
  else if e < 0 then Float.ofScientific m true (-e).toNat
  else Float.ofScientific m false e.toNat

end CodeAppraisal.Decimal
