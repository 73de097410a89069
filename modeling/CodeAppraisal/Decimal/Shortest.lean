import CodeAppraisal.Decimal.Double

/-!
The fewest digits that read back to a floating-point number, and how they are written.
-/
namespace CodeAppraisal.Decimal

structure Scientific where
  coefficient : Nat
  exponent : Int
  deriving DecidableEq, Repr

def compareScaled (a : Nat) (i : Int) (b : Nat) (j : Int) : Ordering :=
  compare (a * Nat.pow 10 i.toNat * Nat.pow 2 (-j).toNat)
    (b * Nat.pow 2 j.toNat * Nat.pow 10 (-i).toNat)

namespace Dyadic

/--
A decimal number is rounded to this one. Four times the mantissa is a scale on which the ends of the
interval, half way to the neighbours, are whole; they belong to it if the mantissa is even.
-/
def readsBack (x : Dyadic) (d : Scientific) : Bool :=
  let low := 4 * x.mantissa - (if x.narrowBelow then 1 else 2)
  let high := 4 * x.mantissa + 2
  let even := x.mantissa % 2 == 0
  let fromLow := compareScaled d.coefficient d.exponent low (x.exponent - 2)
  let toHigh := compareScaled d.coefficient d.exponent high (x.exponent - 2)
  (fromLow == .gt || (even && fromLow == .eq)) && (toHigh == .lt || (even && toHigh == .eq))

def magnitude (x : Dyadic) : Int :=
  if x.exponent ≥ 0 then (digits (x.mantissa * Nat.pow 2 x.exponent.toNat)).length
  else (digits (x.mantissa * Nat.pow 10 350 / Nat.pow 2 (-x.exponent).toNat)).length - 350

def floorAt (x : Dyadic) (exponent : Int) : Nat :=
  (x.mantissa * Nat.pow 2 x.exponent.toNat * Nat.pow 10 (-exponent).toNat) /
    (Nat.pow 10 exponent.toNat * Nat.pow 2 (-x.exponent).toNat)

def nearer (x : Dyadic) (below : Nat) (exponent : Int) : Nat :=
  match compareScaled (2 * below + 1) exponent (2 * x.mantissa) x.exponent with
  | .lt => below + 1
  | .gt => below
  | .eq => below + below % 2

def candidate? (x : Dyadic) (exponent : Int) : Option Scientific :=
  let below := x.floorAt exponent
  match x.readsBack ⟨below, exponent⟩, x.readsBack ⟨below + 1, exponent⟩ with
  | true, true => some ⟨x.nearer below exponent, exponent⟩
  | true, false => some ⟨below, exponent⟩
  | false, true => some ⟨below + 1, exponent⟩
  | false, false => none

def shortest (x : Dyadic) : Scientific :=
  let top := x.magnitude
  ((List.range 17).findSome? fun n => x.candidate? (top - (n + 1 : Nat))).getD
    ⟨x.floorAt (top - 17), top - 17⟩

end Dyadic

def Scientific.stripped (d : Scientific) : Scientific :=
  let ds := digits d.coefficient
  let zeros := min (ds.reverse.takeWhile (· == '0')).length (ds.length - 1)
  ⟨d.coefficient / Nat.pow 10 zeros, d.exponent + zeros⟩

/--
The text of a magnitude. The point stands among or next to the digits from `1e-5` up to less than
`1e16`, and then at least one digit follows it; beyond, an exponent is written.
-/
def Scientific.text (d : Scientific) : List Char :=
  let ds := digits d.coefficient
  let point : Int := ds.length + d.exponent
  if 0 ≤ d.exponent && point ≤ 16 then
    ds ++ List.replicate d.exponent.toNat '0' ++ ['.', '0']
  else if 0 < point && point ≤ 16 then
    ds.take point.toNat ++ '.' :: ds.drop point.toNat
  else if -5 < point && point ≤ 0 then
    '0' :: '.' :: List.replicate (-point).toNat '0' ++ ds
  else
    let rest := ds.drop 1
    ds.take 1 ++ (if rest.isEmpty then [] else '.' :: rest) ++ 'e' :: (toString (point - 1)).toList

def shortest? (x : Float) : Option String :=
  match Double.ofFloat x with
  | .finite v =>
    let d : Scientific := if v.mantissa = 0 then ⟨0, 0⟩ else v.shortest.stripped
    some (String.ofList ((if v.negative then ['-'] else []) ++ d.text))
  | _ => none

end CodeAppraisal.Decimal
