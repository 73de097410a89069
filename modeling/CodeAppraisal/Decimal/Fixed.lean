import CodeAppraisal.Decimal.Double

/-!
Numbers with a fixed number of decimal places.
-/
namespace CodeAppraisal.Decimal

def roundQuotient (n d : Nat) : Nat :=
  let q := n / d
  let twice := 2 * (n % d)
  if twice < d then q
  else if d < twice then q + 1
  else q + q % 2

def Dyadic.scaled (places : Nat) (x : Dyadic) : Nat :=
  roundQuotient (x.mantissa * Nat.pow 10 places * Nat.pow 2 x.exponent.toNat)
    (Nat.pow 2 (-x.exponent).toNat)

def withPoint (places n : Nat) : List Char :=
  let ds := digits n
  let ds := List.replicate (places + 1 - ds.length) '0' ++ ds
  let whole := ds.take (ds.length - places)
  if places = 0 then whole else whole ++ '.' :: ds.drop (ds.length - places)

def fixed (places : Nat) (x : Float) : String :=
  match Double.ofFloat x with
  | .nan => "NaN"
  | .infinite false => "inf"
  | .infinite true => "-inf"
  | .finite v =>
    String.ofList ((if v.negative then ['-'] else []) ++ withPoint places (v.scaled places))

end CodeAppraisal.Decimal
